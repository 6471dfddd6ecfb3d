import RowQuery.Catalog

/-! # Demonstration data

Five employees, the schema of their rows, and some queries to try on them.
-/

namespace RowQuery

/-- An employee. -/
structure Person where
  /-- The number of the employee. -/
  id : Int32
  /-- The name. -/
  name : String
  /-- The age in years. -/
  age : Int32
  /-- The city of the office. -/
  city : String
  /-- The yearly salary. -/
  salary : Binary32
  /-- The department. -/
  department : String
  /-- Whether the employee leads others. -/
  isManager : Bool
  /-- The years since hiring. -/
  yearsAtCompany : Int32
  /-- The country of the office. -/
  country : String
  /-- The team, if there is one. -/
  team : Option String
  /-- The level of seniority. -/
  level : String
  deriving DecidableEq

namespace Person

/-- Text that may be absent, as descriptions show it. -/
def describeOption : Option String → String
  | some text => "Some(" ++ Text.describe text ++ ")"
  | none => "None"

/-- The description of an employee. -/
def describe (person : Person) : String :=
  "Person \x7b id: " ++ Text.intText person.id.toInt ++
    ", name: " ++ Text.describe person.name ++
    ", age: " ++ Text.intText person.age.toInt ++
    ", city: " ++ Text.describe person.city ++
    ", salary: " ++ person.salary.render .literal ++
    ", department: " ++ Text.describe person.department ++
    ", is_manager: " ++ boolText person.isManager ++
    ", years_at_company: " ++ Text.intText person.yearsAtCompany.toInt ++
    ", country: " ++ Text.describe person.country ++
    ", team: " ++ describeOption person.team ++
    ", level: " ++ Text.describe person.level ++ " \x7d"

instance : RowType Person where
  name := "typedsql::demo::Person"
  describe := describe

/-- The columns of an employee. -/
def schema : Schema Person := Schema.ofColumns
  [⟨"id", 0, .integer (·.id)⟩,
   ⟨"name", 1, .text (·.name)⟩,
   ⟨"age", 2, .integer (·.age)⟩,
   ⟨"city", 3, .text (·.city)⟩,
   ⟨"salary", 4, .float (·.salary)⟩,
   ⟨"department", 5, .text (·.department)⟩,
   ⟨"isManager", 6, .boolean (·.isManager)⟩,
   ⟨"yearsAtCompany", 7, .integer (·.yearsAtCompany)⟩,
   ⟨"country", 8, .text (·.country)⟩,
   ⟨"team", 9, .nullableText (·.team)⟩,
   ⟨"level", 10, .text (·.level)⟩]

end Person

namespace Demo

/-- What queries over the employees see. -/
def scope : Scope Person := ⟨some Person.schema⟩

/-- The employees. -/
def people : List Person :=
  [⟨1, "Ada", 34, "Seattle", Binary32.ofInt 180000, "Engineering", true, 6, "US",
    some "Runtime", "Senior"⟩,
   ⟨2, "Barbara", 28, "Boston", Binary32.ofInt 150000, "Engineering", false, 3, "US",
    some "Compiler", "Mid"⟩,
   ⟨3, "Charles", 44, "Helsinki", Binary32.ofInt 210000, "Research", true, 15, "FI",
    some "ML", "Principal"⟩,
   ⟨4, "David", 31, "Palo Alto", Binary32.ofInt 195000, "Product", false, 4, "US",
    some "Runtime", "Senior"⟩,
   ⟨5, "Eve", 39, "Seattle", Binary32.ofInt 220000, "Product", true, 10, "US",
    none, "Staff"⟩]

/-- A query with a title. -/
structure Sample where
  /-- The title. -/
  title : String
  /-- The text of the query. -/
  query : String

/-- Names of employees outside a city. -/
def cityFilter : Sample :=
  ⟨"Simple city filter", "SELECT Name FROM $ WHERE city != 'Seattle'"⟩

/-- Employees who meet four conditions at once. -/
def seniorManagers : Sample :=
  ⟨"Senior, well-paid managers in engineering",
   "SELECT * FROM $ WHERE department = 'Engineering' AND isManager = true AND " ++
    "yearsAtCompany >= 5 AND salary > 170000"⟩

/-- Names of employees on some teams and levels. -/
def seniorTeams : Sample :=
  ⟨"US-based senior+ ICs on Runtime or ML teams",
   "SELECT Name FROM $ WHERE country = 'US' AND (team = 'Runtime' OR team = 'ML') AND " ++
    "(level = 'Senior' OR level = 'Staff' OR level = 'Principal')"⟩

/-- Names of employees outside a country. -/
def abroad : Sample := ⟨"Non-US employees", "SELECT Name FROM $ WHERE NOT country = 'US'"⟩

/-- Five columns of employees with a team. -/
def summaries : Sample :=
  ⟨"Tuple projection",
   "SELECT Name, City, Department, Team, Level FROM $ WHERE salary >= 195000 AND Team != null"⟩

/-- A condition negated twice. -/
def doubleNegation : Sample :=
  ⟨"Double negation", "SELECT Name FROM $ WHERE NOT NOT country = 'US'"⟩

/-- A negated disjunction. -/
def negatedTeams : Sample :=
  ⟨"De Morgan over OR", "SELECT Name FROM $ WHERE NOT (team = 'Runtime' OR team = 'ML')"⟩

/-- Conditions that say the same twice. -/
def repetition : Sample :=
  ⟨"Duplicate predicates",
   "SELECT * FROM $ WHERE department = 'Engineering' AND department = 'Engineering' AND " ++
    "(city = 'Seattle' OR city = 'Seattle')"⟩

/-- The queries in order. -/
def samples : List Sample :=
  [cityFilter, seniorManagers, seniorTeams, abroad, summaries, doubleNegation, negatedTeams,
   repetition]

end Demo

end RowQuery
