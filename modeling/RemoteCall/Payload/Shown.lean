import RemoteCall.Payload.Basic
import RemoteCall.Text.Quoted

/-!
# Values in messages

The form in which arguments and results appear in events: text in quotes, tuples in round brackets,
lists in square ones, tables in braces.
-/

namespace RemoteCall

/-- A type whose values can be shown in an event. -/
class Shown (α : Type) where
  shown : α → String

namespace Shown

variable {α β : Type}

/-- Parts between two brackets, separated by commas. -/
def enclosed (left right : String) (parts : List String) : String :=
  left ++ ", ".intercalate parts ++ right

/-- A record: its name, and its fields between braces. -/
def record (name : String) (fields : List (String × String)) : String :=
  enclosed (name ++ " \x7b ") " \x7d" (fields.map fun (field, value) => field ++ ": " ++ value)

instance : Shown Unit := ⟨fun _ => "()"⟩

instance : Shown Bool := ⟨fun b => if b then "true" else "false"⟩

instance : Shown UInt8 := ⟨fun n => Nat.repr n.toNat⟩

instance : Shown UInt32 := ⟨fun n => Nat.repr n.toNat⟩

instance : Shown UInt64 := ⟨fun n => Nat.repr n.toNat⟩

/-- A whole number in decimal, with a minus sign if it is negative. -/
def decimal (n : Int) : String :=
  match n with
  | .ofNat n => Nat.repr n
  | .negSucc n => "-" ++ Nat.repr (n + 1)

instance : Shown Int32 := ⟨fun n => decimal n.toInt⟩

instance : Shown Int64 := ⟨fun n => decimal n.toInt⟩

instance : Shown String := ⟨Text.quoted⟩

instance [Shown α] : Shown (List α) := ⟨fun as => enclosed "[" "]" (as.map shown)⟩

instance [Shown α] [Shown β] : Shown (α × β) :=
  ⟨fun p => enclosed "(" ")" [shown p.1, shown p.2]⟩

instance [Shown α] : Shown (Option α) :=
  ⟨fun o => match o with
    | none => "None"
    | some a => enclosed "Some(" ")" [shown a]⟩

instance [Shown β] : Shown (TextMap β) :=
  ⟨fun m => enclosed "\x7b" "\x7d" (m.entries.map fun (k, v) => shown k ++ ": " ++ shown v)⟩

instance : Shown Unencodable := ⟨fun _ => "Unencodable"⟩

end Shown

end RemoteCall
