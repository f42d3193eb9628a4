import RemoteCall.Text.Decimal

/-!
# Demonstration: options of a command

A command takes named options, each with a value: `--name value` or `--name=value`.  A value that
looks like an option has to be given with `=`.  No option may occur twice, and nothing else may be
given. `--help` and `--version` end the reading at once, so what follows them is not looked at.
-/

namespace RemoteCall.Demo

/-- An option of a command. -/
structure OptionSpec where
  name : String
  /-- Whether a text is a value for this option. -/
  admits : String → Bool
  description : String
  defaultText : Option String

/-- A command: its name, what it does, and its options. -/
structure Command where
  name : String
  about : String
  options : List OptionSpec

/-- What a command line asks for. -/
inductive Invocation
  | run (values : List (String × String))
  | help
  | version
  /-- The line does not parse. -/
  | refused
  deriving DecidableEq, Repr

namespace Command

/-- Whether a text looks like an option and so cannot be a value behind one. -/
def looksLikeOption (text : String) : Bool :=
  text.startsWith "-" && text ≠ "-"

/-- Splits `name=value`. -/
def splitEquals (text : List Char) : List Char × Option (List Char) :=
  match text.dropWhile (· ≠ '=') with
  | [] => (text, none)
  | _ :: value => (text.takeWhile (· ≠ '='), some value)

/-- Takes over one value. -/
def accept (command : Command) (values : List (String × String)) (name value : String) :
    Option (List (String × String)) :=
  match command.options.find? fun option => option.name = name with
  | none => none
  | some option =>
    if (values.lookup name).isSome || !option.admits value then none
    else some (values ++ [(name, value)])

/-- Reads a command line from left to right, given the values so far. -/
def read (command : Command) (values : List (String × String)) : List String → Invocation
  | [] => .run values
  | text :: rest =>
    match text.toList with
    | '-' :: '-' :: option =>
      match splitEquals option with
      | ([], none) => if rest.isEmpty then .run values else .refused
      | (name, some value) =>
        match command.accept values (String.ofList name) (String.ofList value) with
        | some values => read command values rest
        | none => .refused
      | (name, none) =>
        if name = "help".toList then .help
        else if name = "version".toList then .version
        else
          match rest with
          | value :: rest =>
            if looksLikeOption value then .refused
            else
              match command.accept values (String.ofList name) value with
              | some values => read command values rest
              | none => .refused
          | [] => .refused
    | '-' :: 'h' :: _ => .help
    | '-' :: 'V' :: _ => .version
    | _ => .refused

/-- The version of all commands. -/
def versionText : String := "0.1.0"

/-- A default value as it is shown. -/
def showDefault (text : String) : String :=
  if text.toList.any (· = ' ') then "\"" ++ text ++ "\"" else text

/-- The left column of the help text for an option. -/
def helpLabel (option : OptionSpec) : String :=
  let placeholder := option.name.toList.map fun c => if c = '-' then '_' else c.toUpper
  "      --" ++ option.name ++ " <" ++ String.ofList placeholder ++ ">"

/-- The help text, line by line. -/
def helpLines (command : Command) : List String :=
  let labelled := command.options.map fun option =>
    (helpLabel option,
      option.description ++
        match option.defaultText with
        | some text => " [default: " ++ showDefault text ++ "]"
        | none => "")
  let rows := labelled ++ [("  -h, --help", "Print help"), ("  -V, --version", "Print version")]
  let width := rows.foldl (fun width row => max width row.1.length) 0
  [command.about, "", "Usage: " ++ command.name ++ " [OPTIONS]", "", "Options:"] ++
    rows.map fun (label, text) =>
      label ++ String.ofList (List.replicate (width - label.length + 2) ' ') ++ text

end Command

/-! ## Values -/

/-- A number of at most 64 bits: digits, which a plus sign may precede. -/
def wordOf? (text : String) : Option Nat :=
  Text.unsigned? (UInt64.size - 1) text.toList

end RemoteCall.Demo
