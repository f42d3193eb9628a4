import RemoteCall.Text.Blank

/-!
# Names of services and methods

Names are compared in one normal form, in which every word starts with a capital letter and words
are not separated: `file_service.get_file_list` becomes `FileService.GetFileList`.  Digits and dots
stand for themselves and the letter behind them starts a word.  An underscore goes if a small letter
follows it, and one at the very front becomes `X`.

A name is usable if it is not empty and has neither dots nor white space.  A call names its target
by both names with a dot between them; the last dot counts.
-/

namespace RemoteCall.Name

/-- Whether the next character is a small letter. -/
def startsLower : List Char → Bool
  | [] => false
  | c :: _ => c.isLower

/-- Joins words.  Inside a word small letters stand for themselves; any other character starts a new
word. -/
def joinWords (inWord : Bool) : List Char → List Char
  | [] => []
  | c :: rest =>
    if inWord && c.isLower then c :: joinWords true rest
    else if c = '_' && startsLower rest then joinWords false rest
    else if c.isDigit || c = '.' then c :: joinWords false rest
    else c.toUpper :: joinWords true rest

/-- The characters of a name in normal form. -/
def normalize : List Char → List Char
  | '_' :: rest => 'X' :: joinWords false rest
  | cs => joinWords false cs

/-- The normal form of a name. -/
def camelCase (s : String) : String :=
  String.ofList (normalize s.toList)

/-- Whether a service or method can have this name. -/
def isValid (s : String) : Bool :=
  !s.isEmpty && s.toList.all fun c => c ≠ '.' && !Text.isBlank c

/-- What stands before and after the last dot. -/
def splitLastDot : List Char → Option (List Char × List Char)
  | [] => none
  | c :: rest =>
    match splitLastDot rest with
    | some (before, after) => some (c :: before, after)
    | none => if c = '.' then some ([], rest) else none

/-- The service and the method that a call names. -/
def split? (s : String) : Option (String × String) :=
  match splitLastDot s.toList with
  | some (service, method) =>
    if service.isEmpty || method.isEmpty then none
    else some (String.ofList service, String.ofList method)
  | none => none

end RemoteCall.Name
