import SqlTemplate.Template.Trace

/-!
# SqlTemplate.Template.Segment

The segments of a template: literal text and token contents, in order. They are read off the walk
of a scan by slicing the template between its positions, with the escapes left out.
-/

namespace SqlTemplate.Template

inductive Segment where
  | literal (text : List Char)
  | token (content : List Char)
deriving Repr, DecidableEq

/-- The text between two positions of the walk; every such slice exists. -/
def slice (text : List Char) (start stop : Nat) : List Char :=
  (Text.slice? text start stop).getD []

/-- The content of a token, in which an escaped close delimiter stands for itself. -/
def Closing.content (d : Delimiters) (text : List Char) : Closing → List Char
  | .missing _ => []
  | .found offset stop => slice text offset stop
  | .escaped offset stop next => slice text offset (stop - 1) ++ d.closing ++ next.content d text

/-- An escaped open delimiter stands for itself, and one that is never closed is text together
with all that follows. -/
def Trace.segments (d : Delimiters) (text : List Char) : Trace → List Segment
  | .tail offset => [.literal (slice text offset (Text.byteLength text))]
  | .escaped offset start next =>
    .literal (slice text offset (start - 1) ++ d.opening) :: next.segments d text
  | .token offset start closing next =>
    .literal (slice text offset start) :: .token (closing.content d text) :: next.segments d text
  | .unclosed offset start _ =>
    [.literal (slice text offset start), .literal (slice text start (Text.byteLength text))]

def segments (d : Delimiters) (text : String) : List Segment :=
  (Trace.scan d text.toList).segments d text.toList

def Segment.content? : Segment → Option (List Char)
  | .literal _ => none
  | .token content => some content

/-- The token contents, left to right. -/
def contents (segments : List Segment) : List (List Char) :=
  segments.filterMap Segment.content?

end SqlTemplate.Template
