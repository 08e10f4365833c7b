import ChatMarkup.Cli.Log
import ChatMarkup.Number.Integer
import ChatMarkup.Options.TableMode
import ChatMarkup.Text.Search

/-!
# Arguments of the command line

A word of the command line is a flag if it begins with a hyphen, a value otherwise. Long flags may
be cut short as long as only one flag begins like that, and a value may follow a long flag behind an
equals sign and a short one directly. Short flags without a value may stand in one word. Numbers
below zero are values, and so are single hyphens and words with spaces in them, and all words behind
two hyphens.
-/
namespace ChatMarkup.Cli

inductive FlagAction where
  | readFrom
  | writeTo
  | configuration
  | choose (setting : String) (choices : List String)
  | number (setting : String)
  | name (setting : String)
  | switch (setting : String) (on : Bool)
  | records
  | logLevel
  | logFile
  | verbose
  | trace
  | version
  | help
deriving DecidableEq, Repr

def FlagAction.takesValue : FlagAction → Bool
  | .switch _ _ => false
  | .records => false
  | .verbose => false
  | .trace => false
  | .version => false
  | .help => false
  | _ => true

def flags : List (String × FlagAction) :=
  [("-h", .help), ("--help", .help), ("--out", .writeTo), ("-o", .writeTo),
   ("--config", .configuration), ("--strategy", .choose "strategy" ["truncate", "split"]),
   ("--char-limit", .number "char_limit"),
   ("--table-mode", .choose "table_mode" (TableMode.aliases.map (·.1))),
   ("--no-table-headers", .switch "include_table_headers" false),
   ("--no-clean-escapes", .switch "clean_escapes" false),
   ("--input-format", .choose "input_format" ["markdown", "mdast"]),
   ("--no-strict-mode", .switch "strict_mode" false),
   ("--format", .choose "format" ["text", "json"]), ("--records", .records),
   ("--text-field", .name "text_field"), ("--output-field", .name "output_field"),
   ("--continue-on-fail", .switch "continue_on_fail" true), ("--rich", .switch "rich" true),
   ("--log-level", .logLevel), ("--verbose", .verbose), ("-v", .verbose), ("--trace", .trace),
   ("--log-file", .logFile), ("--version", .version), ("-V", .version)]

structure Arguments where
  input : String := "-"
  out : Option String := none
  configuration : Option String := none
  settings : Members := []
  records : Bool := false
  logLevel : Log.Level := .warning
  verbose : Bool := false
  trace : Bool := false
  logFile : Option String := none

inductive Detour where
  | misused
  | help
  | version
deriving DecidableEq, Repr

inductive ArgumentWord where
  /-- A flag with what stands directly behind it. -/
  | flag (name : String) (action : FlagAction) (attached : Option String)
  /-- A word that looks like a flag. -/
  | unknown
  | value (text : String)
  /-- The two hyphens behind which there are values only. -/
  | divider
deriving DecidableEq, Repr

/-- The text denotes a number below zero. -/
def isNegativeNumber (s : List Char) : Bool :=
  let isDigit (c : Char) : Bool := (Text.digitValue? c).isSome
  match s with
  | '-' :: rest =>
    let tail := rest.dropWhile isDigit
    match tail with
    | [] => !rest.isEmpty
    | '.' :: places => !places.isEmpty && places.all isDigit
    | _ => false
  | _ => false

/-- The flags that a word can be short for, with what stands directly behind them. -/
def candidates (word : List Char) : List (String × FlagAction × Option String) :=
  let (start, attached) := match Text.cutAt? ['='] word with
    | some (start, value) => (start, some (String.ofList value))
    | none => (word, none)
  if ['-', '-'].isPrefixOf word then
    (flags.filter fun f => start.isPrefixOf f.1.toList).map fun f => (f.1, f.2, attached)
  else
    (flags.filter fun f => f.1.toList == word.take 2).map fun f =>
      (f.1, f.2, some (String.ofList (word.drop 2)))

/-- What a word is, where flags may stand. -/
def wordOf (text : String) : Except Detour ArgumentWord :=
  let word := text.toList
  if word.head? != some '-' || word.length == 1 then .ok (.value text)
  else
    match flags.lookup text with
    | some action => .ok (.flag text action none)
    | none =>
      let exact := (Text.cutAt? ['='] word).bind fun (start, value) =>
        (flags.lookup (String.ofList start)).map fun action =>
          ArgumentWord.flag (String.ofList start) action (some (String.ofList value))
      match exact, candidates word with
      | some found, _ => .ok found
      | none, [(name, action, attached)] => .ok (.flag name action attached)
      | none, [] =>
        if isNegativeNumber word || word.contains ' ' then .ok (.value text) else .ok .unknown
      | none, _ => .error .misused

def wordsOf : List String → Except Detour (List ArgumentWord)
  | [] => .ok []
  | text :: rest =>
    if text == "--" then .ok (.divider :: rest.map .value)
    else do
      let word ← wordOf text
      let words ← wordsOf rest
      pure (word :: words)

def Arguments.set (a : Arguments) (setting : String) (v : Value) : Arguments :=
  { a with settings := Members.set a.settings setting v }

def Arguments.applyFlag (a : Arguments) (action : FlagAction) : Except Detour Arguments :=
  match action with
  | .switch setting on => .ok (a.set setting (.bool on))
  | .records => .ok { a with records := true }
  | .verbose => .ok { a with verbose := true }
  | .trace => .ok { a with trace := true }
  | .version => .error .version
  | .help => .error .help
  | _ => .error .misused

def Arguments.applyValue (a : Arguments) (action : FlagAction) (value : String) :
    Except Detour Arguments :=
  match action with
  | .writeTo => .ok { a with out := some value }
  | .configuration => .ok { a with configuration := some value }
  | .choose setting choices =>
    if choices.contains value then .ok (a.set setting (.text value)) else .error .misused
  | .number setting =>
    match Number.integer? value.toList with
    | some n => .ok (a.set setting (.int n))
    | none => .error .misused
  | .name setting => .ok (a.set setting (.text value))
  | .logLevel =>
    match Log.Level.ofName? value with
    | some logLevel => .ok { a with logLevel }
    | none => .error .misused
  | .logFile => .ok { a with logFile := some value }
  | _ => .error .misused

def shortFlag? (c : Char) : Option FlagAction := flags.lookup (String.ofList ['-', c])

/-- The arguments after short flags that stand in one word with the first of them. The last one may
want a value, which then stands directly behind it; otherwise that flag is given back. -/
def Arguments.applyShort (a : Arguments) (action : FlagAction) :
    List Char → Except Detour (Arguments × Option FlagAction)
  | [] => if action.takesValue then .ok (a, some action)
    else (a.applyFlag action).map fun a => (a, none)
  | c :: rest =>
    if action.takesValue then
      (a.applyValue action (String.ofList (c :: rest))).map fun a => (a, none)
    else do
      let a ← a.applyFlag action
      match shortFlag? c with
      | some next => applyShort a next rest
      | none => throw .misused

/-- The words that are left to read, what has been read, the values that belong to no flag, whether
there is a word that looks like a flag, and a flag that wants a value. -/
structure ArgumentState where
  arguments : Arguments := {}
  values : List String := []
  isUnknown : Bool := false
  open? : Option FlagAction := none

def ArgumentState.read (s : ArgumentState) (word : ArgumentWord) : Except Detour ArgumentState :=
  match s.open?, word with
  | some action, .value text =>
    (s.arguments.applyValue action text).map fun arguments =>
      { s with arguments, open? := none }
  | some _, _ => .error .misused
  | none, .value text => .ok { s with values := s.values ++ [text] }
  | none, .divider => .ok s
  | none, .unknown => .ok { s with isUnknown := true }
  | none, .flag name action attached =>
    let isLong := ['-', '-'].isPrefixOf name.toList
    match attached with
    | some value =>
      if isLong || value.isEmpty then
        if action.takesValue then
          (s.arguments.applyValue action value).map fun arguments => { s with arguments }
        else .error .misused
      else (s.arguments.applyShort action value.toList).map fun (arguments, open?) =>
        { s with arguments, open? }
    | none =>
      (s.arguments.applyShort action []).map fun (arguments, open?) =>
        { s with arguments, open? }

def argumentsOf (texts : List String) : Except Detour Arguments := do
  let words ← wordsOf texts
  let s ← words.foldlM ArgumentState.read {}
  match s.open?, s.isUnknown, s.values with
  | none, false, [] => pure s.arguments
  | none, false, [input] => pure { s.arguments with input }
  | _, _, _ => throw .misused

end ChatMarkup.Cli
