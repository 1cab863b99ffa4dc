import PointInTime.Json.Basic
import PointInTime.Text.Decimal
import PointInTime.Error

/-!
# Summaries of databases

After a restore the tables of each database are counted by a query inside the first pod of the
cluster.  Its answer has one line for each database: the name, a tab, the count.
-/

namespace PointInTime

structure DatabaseTables where
  name : String
  tables : Nat
deriving DecidableEq, Repr

structure DatabaseSummary where
  cluster : String
  databases : List DatabaseTables
deriving DecidableEq, Repr

namespace DatabaseSummary

/-! ## The query -/

def container : String := "pxc"

def pod (cluster : String) : String :=
  cluster ++ "-pxc-0"

/-- The query: tables of every database that is not the server's own. -/
def query : String :=
  "SELECT s.schema_name, COUNT(t.table_name) " ++
    "FROM information_schema.schemata s " ++
    "LEFT JOIN information_schema.tables t ON t.table_schema = s.schema_name " ++
    "WHERE s.schema_name NOT IN ('mysql', 'information_schema', 'performance_schema', 'sys') " ++
    "GROUP BY s.schema_name ORDER BY s.schema_name"

/-- The command line of the query.  The password is read inside the pod and is part of no request
and of no argument. -/
def command : List String :=
  ["sh", "-c",
    "export MYSQL_PWD=\"$(cat /etc/mysql/mysql-users-secret/root)\"; " ++
      "exec mysql -uroot -N -B -e \"$0\"",
    query]

/-! ## Its answer -/

/-- The lines of a text; a line ends with a line feed, which a carriage return may precede. -/
def lines (s : List Char) : List (List Char) :=
  linesFrom [] s
where
  linesFrom (line : List Char) : List Char → List (List Char)
    | [] => if line = [] then [] else [line.reverse]
    | '\n' :: rest =>
        (match line with
          | '\r' :: line => line.reverse
          | line => line.reverse) :: linesFrom [] rest
    | c :: rest => linesFrom (c :: line) rest

def countBound : Nat := UInt64.size

def readLine (line : List Char) : Except Error DatabaseTables :=
  match line.dropWhile (· ≠ '\t') with
  | [] =>
      .error (.unreadable none ("unexpected summary line '" ++ String.ofList line ++ "'"))
  | _ :: count =>
      let name := String.ofList (line.takeWhile (· ≠ '\t'))
      match Text.numeral? countBound (Text.trim count) with
      | some tables => .ok ⟨name, tables⟩
      | none =>
          .error (.unreadable none
            ("unexpected table count '" ++ String.ofList count ++ "' for " ++ name))

def filledLines (s : List Char) : List (List Char) :=
  ((lines s).map Text.trimEnd).filter (· ≠ [])

def parse (cluster : String) (output : String) : Except Error DatabaseSummary := do
  let databases ← (filledLines output.toList).mapM readLine
  return ⟨cluster, databases⟩

/-! ## Totals -/

def totalDatabases (s : DatabaseSummary) : Nat :=
  s.databases.length

/-- All tables, counted modulo the bound of a count. -/
def totalTables (s : DatabaseSummary) : Nat :=
  (s.databases.map (·.tables)).foldr (· + ·) 0 % countBound

def toJson (s : DatabaseSummary) : Json :=
  .obj
    [("cluster", .str s.cluster),
      ("databases", .arr (s.databases.map fun d =>
        .obj [("name", .str d.name), ("tables", .nat d.tables)])),
      ("totalDatabases", .nat s.totalDatabases),
      ("totalTables", .nat s.totalTables)]

end DatabaseSummary
end PointInTime
