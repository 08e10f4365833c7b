import ChatMarkup.Options.Format

/-!
# Options of messages

A message has at most 4096 characters, and may be allowed fewer. What does not fit is cut off or
goes into further messages. When records are converted, options name the fields that hold the text
and the markup.
-/
namespace ChatMarkup

inductive Strategy where
  | truncate
  | split
deriving DecidableEq, Repr

namespace Strategy

def name : Strategy → String
  | .truncate => "truncate"
  | .split => "split"

def ofName (given : Value) : Except OptionError Strategy :=
  match given with
  | .text "truncate" => .ok .truncate
  | .text "split" => .ok .split
  | _ => .error (.strategy given)

end Strategy

/-- The most characters that a message can have. -/
def maxMessageLength : Nat := 4096

structure CharLimit where
  value : Nat := maxMessageLength
  one_le : 1 ≤ value := by decide
  le_max : value ≤ maxMessageLength := by decide
deriving DecidableEq, Repr

/-- A number from one on stays so when it is lowered to what a message can have. -/
theorem CharLimit.one_le_lowered {n : Int} (h : ¬n < 1) : 1 ≤ min n.toNat maxMessageLength := by
  have positive : 1 ≤ n.toNat := by omega
  exact Nat.le_min.mpr ⟨positive, by decide⟩

/-- The limit that a value gives: a whole number from one on, lowered to what a message can
have. -/
def CharLimit.ofValue (given : Value) : Except OptionError CharLimit :=
  match given with
  | .int n =>
    if h : n < 1 then .error (.limitTooSmall n)
    else .ok
      { value := min n.toNat maxMessageLength
        one_le := one_le_lowered h
        le_max := Nat.min_le_right _ _ }
  | v => .error (.limitKind v.kindName)

structure MessageOptions where
  strategy : Strategy := .truncate
  charLimit : CharLimit := {}
  cleanEscapes : Bool := true
  textField : String := "markdown"
  outputField : String := "telegram_html"
  renderer : RenderOptions := {}
  parser : Markdown.Options := {}
deriving DecidableEq, Repr

namespace MessageOptions

def plainNames : List String :=
  ["strategy", "char_limit", "clean_escapes", "text_field", "output_field"]

def names : List String := plainNames ++ ["renderer", "parser"]

/-- The name of a field, which must not be empty. -/
def fieldName (option : String) (given : Value) : Except OptionError String :=
  if given.isGiven then .ok given.plain else .error (.emptyField option)

/-- The options of a part of the conversion that may be given as an object; they start from the
defaults. -/
def part {α : Type} (given : Members) (name : String) (current default : α)
    (update : α → Members → Except OptionError α) : Except OptionError α :=
  match given.get? name with
  | some (.object ms) => update default ms
  | some _ => .ok default
  | none => .ok current

/-- The options with some of them given anew. The parts come first; then the values are looked at
in order. -/
def update (o : MessageOptions) (given : Members) : Except OptionError MessageOptions := do
  let renderer ← part given "renderer" o.renderer {} RenderOptions.update
  let parser ← part given "parser" o.parser {} Markdown.Options.update
  checkNames names given
  let strategy ← (given.get? "strategy").elim (pure o.strategy) Strategy.ofName
  let charLimit ← (given.get? "char_limit").elim (pure o.charLimit) CharLimit.ofValue
  let outputField ← (given.get? "output_field").elim (pure o.outputField) (fieldName "output_field")
  let textField ← (given.get? "text_field").elim (pure o.textField) (fieldName "text_field")
  pure
    { strategy, charLimit, textField, outputField, renderer, parser
      cleanEscapes := chosen given "clean_escapes" o.cleanEscapes }

def toMembers (o : MessageOptions) : Members :=
  [("strategy", .text o.strategy.name), ("char_limit", .int o.charLimit.value),
   ("clean_escapes", .bool o.cleanEscapes), ("text_field", .text o.textField),
   ("output_field", .text o.outputField), ("renderer", .object o.renderer.toMembers),
   ("parser", .object o.parser.toMembers)]

end MessageOptions

end ChatMarkup
