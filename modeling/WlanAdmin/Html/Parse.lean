import WlanAdmin.Html.Foreign
import WlanAdmin.Html.Lexer

/-!
# WlanAdmin.Html.Parse

Reading a page, as a browser that runs scripts reads it: any text is a page, and every mistake has
a meaning.
-/

namespace WlanAdmin.Html

/-- Line endings as line feeds. -/
def normalizeLines (text : List Char) : List Char :=
  go [] text
where
  go : (seen : List Char) → List Char → List Char
    | seen, '\r' :: '\n' :: rest => go ('\n' :: seen) rest
    | seen, '\r' :: rest => go ('\n' :: seen) rest
    | seen, c :: rest => go (c :: seen) rest
    | seen, [] => seen.reverse

/-- Whether the next token stands in an element of another vocabulary. -/
def Builder.inForeign (b : Builder) : Bool :=
  match b.opened with
  | id :: _ => (b.arena.element id).vocabulary != .html
  | [] => false

/-- Places the tokens of a text. Each takes at least one character, so the length of the text
bounds their number. -/
def build : (tokens : Nat) → Builder → List Char → Builder
  | 0, b, _ => b
  | tokens + 1, b, text =>
    match nextToken b.inForeign b.reading text with
    | (some .endOfPage, _) => ((Build.place .endOfPage).run b).2
    | (some token, rest) => build tokens ((Build.place token).run b).2 rest
    | (none, rest) => build tokens b rest

/-- The text of a page without a mark of byte order. -/
def dropMark : List Char → List Char
  | c :: rest => if c = '\uFEFF' then rest else c :: rest
  | [] => []

/-- The tree of a page. -/
def parse (text : List Char) : List Node :=
  let text := normalizeLines (dropMark text)
  (build (text.length + 1) {} text).arena.toNodes

end WlanAdmin.Html
