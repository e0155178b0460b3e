/-!
# Command lines

## Main definitions

* `Command.Invocation` — what a command line asks for
* `Command.parse` — reads a command line

## Implementation notes

Arguments are read from left to right, and the first one that is wrong or asks for help decides.
An option takes its value from the same argument or from the next one, which must not look like an
option itself, and no option may be given twice.
-/

namespace RowSchema.Command

/-- What a command line asks for. -/
inductive Invocation where
  /-- Answer the requests on the standard input. -/
  | serve
  /-- Generate from a file into a directory. -/
  | generate (document output : String)
  /-- Show how the generator presents itself. -/
  | manifest
  /-- Show a text. -/
  | display (text : String)
  /-- The command line makes no sense. -/
  | misuse
deriving DecidableEq, Repr

/-! ### Help -/

/-- The name of the program and its version. -/
def versionText : String := "prisma-effect-kysely 0.1.0\n"

/-- A text of several lines. -/
def page (lines : List String) : String :=
  String.join (lines.map (· ++ "\n"))

/-- The help for the whole program. -/
def programHelp : String :=
  page [
    "Generates Effect Schema + Kysely types from a Prisma schema", "",
    "Usage: prisma-effect-kysely [COMMAND]", "",
    "Commands:",
    "  generate  Generate from a DMMF JSON file",
    "  manifest  Print the generator manifest",
    "  help      Print this message or the help of the given subcommand(s)", "",
    "Options:",
    "  -h, --help     Print help",
    "  -V, --version  Print version"]

/-- The help for generating. -/
def generateHelp : String :=
  page [
    "Generate from a DMMF JSON file", "",
    "Usage: prisma-effect-kysely generate --dmmf <DMMF> --output <OUTPUT>", "",
    "Options:",
    "  -d, --dmmf <DMMF>      DMMF JSON (`\x7b \"datamodel\": ... \x7d` or "
      ++ "`\x7b \"dmmf\": \x7b \"datamodel\": ... \x7d \x7d`)",
    "  -o, --output <OUTPUT>  Output directory for enums.ts, types.ts and index.ts",
    "  -h, --help             Print help"]

/-- The help for the manifest. -/
def manifestHelp : String :=
  page [
    "Print the generator manifest", "",
    "Usage: prisma-effect-kysely manifest", "",
    "Options:",
    "  -h, --help  Print help"]

/-- The help for getting help. -/
def helpHelp : String :=
  page [
    "Print this message or the help of the given subcommand(s)", "",
    "Usage: prisma-effect-kysely help [COMMAND]...", "",
    "Arguments:",
    "  [COMMAND]...  Print help for the subcommand(s)"]

/-! ### Arguments -/

/-- An argument by its form. -/
inductive Argument where
  /-- Two hyphens alone: no options follow. -/
  | endOfOptions
  /-- A name after two hyphens, perhaps with a value after an equals sign. -/
  | long (name : String) (value : Option String)
  /-- A letter after one hyphen, with the rest of the argument. -/
  | short (letter : Char) (rest : List Char)
  | plain (text : String)
deriving DecidableEq, Repr

/-- The form of an argument. A hyphen alone is an ordinary argument. -/
def Argument.of (arg : String) : Argument :=
  match arg.toList with
  | ['-', '-'] => .endOfOptions
  | '-' :: '-' :: text =>
    let name := text.takeWhile (· ≠ '=')
    match text.dropWhile (· ≠ '=') with
    | _ :: value => .long (String.ofList name) (some (String.ofList value))
    | [] => .long (String.ofList name) none
  | '-' :: letter :: rest => .short letter rest
  | _ => .plain arg

/-- Whether an argument asks for help. -/
def Argument.asksHelp : Argument → Bool
  | .long "help" none => true
  | .short 'h' _ => true
  | _ => false

/-- The options of generating. -/
inductive Setting where
  | document
  | output
deriving DecidableEq, Repr

/-- The options that have been read. -/
structure Draft where
  document : Option String := none
  output : Option String := none

/-- Gives an option its value. It must not be empty or given already. -/
def Draft.set? (d : Draft) (s : Setting) (value : String) : Option Draft :=
  if value = "" then none
  else
    match s with
    | .document => if d.document.isSome then none else some { d with document := some value }
    | .output => if d.output.isSome then none else some { d with output := some value }

/-- The invocation once all options have been read. Both of them have to be there. -/
def Draft.finish (d : Draft) : Invocation :=
  match d.document, d.output with
  | some document, some output => .generate document output
  | _, _ => .misuse

/-- The value that follows a letter in the same argument. -/
def attached? (rest : List Char) : Option String :=
  match rest with
  | [] => none
  | '=' :: value => some (String.ofList value)
  | value => some (String.ofList value)

/-- The option that an argument names, with the value in the same argument. -/
def Argument.setting? : Argument → Option (Setting × Option String)
  | .long "dmmf" value => some (.document, value)
  | .long "output" value => some (.output, value)
  | .short 'd' rest => some (.document, attached? rest)
  | .short 'o' rest => some (.output, attached? rest)
  | _ => none

/-- Reads the arguments of generating. `pending` is an option that waits for its value. -/
def parseGenerate (d : Draft) (pending : Option Setting) : List String → Invocation
  | [] => if pending.isSome then .misuse else d.finish
  | arg :: rest =>
    match pending, Argument.of arg with
    | some s, .plain value =>
      match d.set? s value with
      | some d => parseGenerate d none rest
      | none => .misuse
    | some _, _ => .misuse
    | none, .plain _ => .misuse
    | none, .endOfOptions => if rest.isEmpty then d.finish else .misuse
    | none, argument =>
      if argument.asksHelp then .display generateHelp
      else
        match argument.setting? with
        | none => .misuse
        | some (s, none) => parseGenerate d (some s) rest
        | some (s, some value) =>
          match d.set? s value with
          | some d => parseGenerate d none rest
          | none => .misuse

/-- Reads the arguments of showing the manifest, which has no options. -/
def parseManifest : List String → Invocation
  | [] => .manifest
  | ["--"] => .manifest
  | arg :: _ => if (Argument.of arg).asksHelp then .display manifestHelp else .misuse

/-- Reads the arguments of asking for help. -/
def parseHelp : List String → Invocation
  | [] => .display programHelp
  | ["generate"] => .display generateHelp
  | ["manifest"] => .display manifestHelp
  | ["help"] => .display helpHelp
  | _ => .misuse

/-- Reads a command line without the name of the program. -/
def parse : List String → Invocation
  | [] => .serve
  | "generate" :: rest => parseGenerate {} none rest
  | "manifest" :: rest => parseManifest rest
  | "help" :: rest => parseHelp rest
  | ["--"] => .serve
  | arg :: _ =>
    match Argument.of arg with
    | .long "version" none => .display versionText
    | .short 'V' _ => .display versionText
    | argument => if argument.asksHelp then .display programHelp else .misuse

end RowSchema.Command
