import RowSchema.Generator

/-!
# Reports to people

What the program tells about a generation that it has been asked for on the command line.

## Main definitions

* `Command.summaryLine` — the numbers of models and enums in a line
* `Command.successReport`, `Command.failureReport` — the whole reports
-/

namespace RowSchema.Command

/-- A noun after a number. -/
def plural (count : Nat) (noun : String) : String :=
  if count = 1 then noun else noun ++ "s"

/-- The numbers of models and enums. -/
def summaryLine (models enums : Nat) : String :=
  toString models ++ " " ++ plural models "model" ++ " · " ++ toString enums ++ " "
    ++ plural enums "enum"

/-- What a generated file holds. -/
def fileDescription (name : String) : String :=
  match name with
  | "enums.ts" => "enum literal schemas"
  | "types.ts" => "model schemas + DB interface"
  | _ => "re-exports"

/-- The branch of a file in the tree of files. The last one is bent. -/
def fileLines : List String → List String
  | [] => []
  | [name] => ["  ╰──  " ++ name ++ "   " ++ fileDescription name]
  | name :: rest => ("  ├──  " ++ name ++ "   " ++ fileDescription name) :: fileLines rest

/-- The report of a generation that took `millis` milliseconds. -/
def successReport (g : Generator) (s : Generator.Summary) (millis : Nat) : String :=
  let lines :=
    ["  ◉ Generated to " ++ g.outputDir, "  " ++ summaryLine s.models s.enums, ""]
      ++ fileLines s.files ++ ["", "  ◇ Done in " ++ toString millis ++ "ms"]
  String.join (lines.map (· ++ "\n"))

/-- What stands above the reason of a failure. -/
def failureReport : String := "\n  ◆ Hold up.\n\n"

end RowSchema.Command
