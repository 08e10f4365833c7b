import ChatMarkup.Markup.Split
import ChatMarkup.Markup.Truncate
import ChatMarkup.Options.Message
import ChatMarkup.Render.Document
import ChatMarkup.Source
import ChatMarkup.SourceTable.Listing

/-!
# From Markdown to messages

The whole conversion: Markdown becomes markup, and markup becomes messages that are short enough.
Tables that are to be shown as lists are written as lists before the text is read. The reader of
Markdown is given from outside.
-/
namespace ChatMarkup

/-- The markup of a Markdown text. An empty text has empty markup. -/
def markupOfText (reader : Markdown.Reader) (renderer : RenderOptions)
    (parser : Markdown.Options) (text : String) : Except Failure String :=
  if text.isEmpty then .ok ""
  else do
    let source :=
      SourceTable.toLists renderer.tableMode renderer.includeTableHeaders text.toList
    let document ← reader.document parser source
    Render.documentMarkup renderer document

/-- Options from keywords: those with a name among the options count, the others are passed on. -/
def takeKeywords {α : Type} (names : List String) (update : α → Members → Except OptionError α)
    (current : α) (keywords : Members) : Except Failure (α × Members) :=
  let (own, others) := keywords.partitionNames names
  ((update current own).mapError OptionError.toFailure).map fun o => (o, others)

/-- The options of a conversion with keywords on top; keywords without a meaning are ignored. -/
def conversionOptions (renderer : RenderOptions) (parser : Markdown.Options)
    (keywords : Members) : Except Failure (RenderOptions × Markdown.Options) := do
  let (renderer, keywords) ←
    takeKeywords RenderOptions.names RenderOptions.update renderer keywords
  let (parser, _) ←
    takeKeywords Markdown.Options.names Markdown.Options.update parser keywords
  pure (renderer, parser)

def markupOfSource (reader : Markdown.Reader) (source : Source) (renderer : RenderOptions)
    (parser : Markdown.Options) (keywords : Members) : Except Failure String := do
  let (renderer, parser) ← conversionOptions renderer parser keywords
  markupOfText reader renderer parser source.content

/-- The pieces of markup that fit a limit: the markup itself if it is short enough, or else what the
strategy makes of it. -/
def fit (limit : Nat) (strategy : Strategy) (markup : String) : List String :=
  if markup.length ≤ limit then [markup]
  else match strategy with
    | .split => (Markup.split limit markup.toList).map String.ofList
    | .truncate => [String.ofList (Markup.truncate limit markup.toList)]

def badLength (given : Value) : Failure :=
  .plain (.validation (some "max_length"))
    s!"max_length must be a positive integer, got {given.literal}"

/-- The length that a value gives, which must be a positive whole number. -/
def lengthOfValue (given : Value) : Except Failure Nat :=
  match given with
  | .int n => if 1 ≤ n then .ok n.toNat else .error (badLength given)
  | _ => .error (badLength given)

/-- The pieces of markup that fit a limit which need not be possible: only empty markup is as short
as zero characters. -/
def fitWithin (limit : Int) (strategy : Strategy) (markup : String) :
    Except Failure (List String) :=
  if (markup.length : Int) ≤ limit then .ok [markup]
  else (lengthOfValue (.int limit)).map fun limit => fit limit strategy markup

/-- A document with one level of backslash escapes undone, if it was handed over as text. -/
def Source.cleaned : Source → Source
  | .text s => .text (String.ofList (unescapeBackslashes s.toList))
  | source => source

def messages (reader : Markdown.Reader) (source : Source) (options : MessageOptions)
    (keywords : Members) : Except Failure (List String) := do
  let (options, keywords) ←
    takeKeywords MessageOptions.plainNames MessageOptions.update options keywords
  let (renderer, parser) ← conversionOptions options.renderer options.parser keywords
  let source := if options.cleanEscapes then source.cleaned else source
  let markup ← markupOfText reader renderer parser source.content
  pure (fit options.charLimit.value options.strategy markup)

end ChatMarkup
