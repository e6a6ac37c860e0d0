import Rendezvous.Text.Quoted

/-!
# Diagnostic text

The text by which a value is shown to somebody who debugs a network.

* `Inspect`: types whose values have such a text. Texts are quoted, numbers are decimal, truth
  values are `true` and `false`, and an optional value is `None` or `Some(…)`.
* `application`: a name with its arguments in brackets.
* `record`: a name with its labelled fields in braces.
* `named`: an identity followed by the name it goes by, if it has one.
-/

namespace Rendezvous

/-- Values with a diagnostic text. -/
class Inspect (α : Type) where
  inspect : α → String

export Inspect (inspect)

namespace Text

/-- A name with its arguments in brackets. -/
def application (name : String) (arguments : List String) : String :=
  name ++ "(" ++ ", ".intercalate arguments ++ ")"

/-- A name with its labelled fields in braces. -/
def record (name : String) (fields : List (String × String)) : String :=
  name ++ " \x7b " ++ ", ".intercalate (fields.map fun f => f.1 ++ ": " ++ f.2) ++ " \x7d"

/-- An identity followed by the name it goes by, if it has one. -/
def named (identity : String) : Option String → String
  | none => identity
  | some name => identity ++ "(" ++ name ++ ")"

end Text

instance : Inspect String := ⟨Text.quote⟩

instance : Inspect Int := ⟨toString⟩

instance : Inspect Nat := ⟨toString⟩

instance : Inspect UInt64 := ⟨fun n => toString n.toNat⟩

instance : Inspect Bool := ⟨fun b => if b then "true" else "false"⟩

instance {α : Type} [Inspect α] : Inspect (Option α) :=
  ⟨fun
    | none => "None"
    | some x => Text.application "Some" [inspect x]⟩

end Rendezvous
