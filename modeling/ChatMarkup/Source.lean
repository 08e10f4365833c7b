import ChatMarkup.Text.Utf8

/-!
# Sources of documents

A document can be handed over as text, as bytes, in a file, or through a stream of either. Bytes are
decoded; what is none of these counts as an empty document.
-/
namespace ChatMarkup

/-- The form in which a document is handed over. -/
inductive Source where
  | text (s : String)
  | bytes (content : List UInt8)
  | file (content : List UInt8)
  | textStream (s : String)
  | byteStream (content : List UInt8)
  | unsupported
deriving DecidableEq, Repr

def Source.content : Source → String
  | .text s => s
  | .bytes content => String.ofList (Text.decodeDocument content)
  | .file content => String.ofList (Text.decodeDocument content)
  | .textStream s => s
  | .byteStream content => String.ofList (Text.decodeDocument content)
  | .unsupported => ""

end ChatMarkup
