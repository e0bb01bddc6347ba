import WlanAdmin.Html.Builder

/-!
# WlanAdmin.Html.Formatting

Formatting that outlives its elements. A formatting element that a block ends goes on in the next
block, and one that ends inside a block is split in two: one around the block's beginning, and one
inside it.
-/

namespace WlanAdmin.Html.Build

/-- The formatting elements since the last mark, the latest first. -/
def sinceMarker (formatting : List (Option NodeId)) : List NodeId :=
  (formatting.takeWhile Option.isSome).filterMap id

/-- Whether two elements have the same name and attributes, in any order. -/
def alike (a b : Element) : Bool :=
  a.name == b.name && a.vocabulary == b.vocabulary &&
    a.attributes.length == b.attributes.length &&
    a.attributes.all fun (name, value) => b.attributes.get? name == some value

/-- Notes an element as formatting. Of more than three that are alike, the earliest is forgotten. -/
def pushFormatting (id : NodeId) : Build Unit :=
  modify fun b =>
    let same := (sinceMarker b.formatting).filter fun other =>
      alike (b.arena.element other) (b.arena.element id)
    let kept := if 3 ≤ same.length then b.formatting.erase same.getLast? else b.formatting
    { b with formatting := some id :: kept }

/-- Opens a copy of each element, in order, and returns the copies. -/
def reopen : List NodeId → Build (List (NodeId × NodeId))
  | [] => return []
  | id :: rest => do
    let copy ← insertElement (← elementOf id)
    return (id, copy) :: (← reopen rest)

/-- Opens the formatting elements again that a block has ended. -/
def reconstruct : Build Unit := do
  let b ← get
  let ended := (sinceMarker b.formatting).takeWhile fun id => !b.opened.contains id
  let copies ← reopen ended.reverse
  modify fun b => { b with
    formatting := b.formatting.map fun entry =>
      entry.map fun id => (copies.lookup id).getD id }

/-- Opens an element for a tag, as formatting. -/
def insertFormatting (tag : Tag) : Build Unit := do
  reconstruct
  pushFormatting (← insert tag)

/-- An end tag without rules of its own ends the innermost element of its name, unless a special
element is open inside it. -/
def closeAny (name : String) : Build Unit := do
  let rec search : List Element → Bool
    | [] => false
    | element :: outer =>
      element.isOneOf [name] || (!element.isSpecial && search outer)
  if search (← openElements) then
    popImplied name
    popThrough [name]

/-! ## Splitting -/

/-- Where a split element is noted again. -/
inductive Bookmark where
  | instead
  /-- Right after another element. -/
  | after (id : NodeId)

/-- Replaces an entry of the formatting, and of the open elements. -/
def substitute (old new : NodeId) : Build Unit :=
  modify fun b => { b with
    formatting := b.formatting.map fun entry => if entry = some old then some new else entry
    opened := b.opened.map fun id => if id = old then new else id }

/-- Goes from a block outward to the element to be split, over the elements between them, and wraps
the block in copies of those that are formatting. At most three are kept. Returns the wrapped
block, and where to note the split element. -/
def wrapBlock (block : NodeId) :
    (count : Nat) → (last : NodeId) → Bookmark → List NodeId → Build (NodeId × Bookmark)
  | _, last, bookmark, [] => return (last, bookmark)
  | count, last, bookmark, id :: outer => do
    if 3 ≤ count then
      modify fun b => { b with formatting := b.formatting.erase (some id) }
    if (← get).formatting.contains (some id) then
      let copy ← create (.element (← elementOf id))
      substitute id copy
      let bookmark := if last = block then .after copy else bookmark
      move (.inside copy) last
      wrapBlock block (count + 1) copy bookmark outer
    else
      unopen id
      wrapBlock block (count + 1) last bookmark outer

/-- Splits a formatting element at a block inside it. `between` are the elements from the block
outward, and `outside` is the one around the formatting element. -/
def splitAt (formatting block : NodeId) (between : List NodeId) (outside : NodeId) :
    Build Unit := do
  let (wrapped, bookmark) ← wrapBlock block 0 block .instead between
  onArena (·.detach wrapped)
  put (← placeIn outside) wrapped
  let copy ← create (.element (← elementOf formatting))
  onArena fun arena => (arena.moveChildren block copy).append block copy
  modify fun b =>
    let noted := match bookmark with
      | .instead => b.formatting.map fun entry =>
          if entry = some formatting then some copy else entry
      | .after id => (b.formatting.erase (some formatting)).flatMap fun entry =>
          if entry = some id then [some copy, entry] else [entry]
    let opened := (b.opened.filter (· != formatting)).flatMap fun id =>
      if id = block then [copy, id] else [id]
    { b with formatting := noted, opened }

/-- One round of ending the innermost formatting element of a name: done, or once more. -/
def closeFormattingOnce (name : String) : Build Next := do
  let b ← get
  match (sinceMarker b.formatting).find? fun id => (b.arena.element id).name = name with
  | none =>
    closeAny name
    return .done
  | some formatting =>
    let forget : Build Unit :=
      modify fun b => { b with formatting := b.formatting.erase (some formatting) }
    if !b.opened.contains formatting then
      forget
      return .done
    let inner := b.opened.takeWhile (· != formatting)
    if inner.any fun id => Scope.default.endsAt (b.arena.element id) then return .done
    match inner.reverse.find? fun id => (b.arena.element id).isSpecial with
    | none =>
      modify fun b => { b with opened := (b.opened.dropWhile (· != formatting)).tail }
      forget
      return .done
    | some block =>
      let between := (inner.dropWhile (· != block)).tail
      let outside := ((b.opened.dropWhile (· != formatting)).tail).headD Arena.page
      splitAt formatting block between outside
      return .again

/-- Ends a formatting element, in at most some number of rounds. -/
def closeFormattingRounds (name : String) : Nat → Build Unit
  | 0 => return
  | rounds + 1 => do
    match ← closeFormattingOnce name with
    | .done => return
    | .again => closeFormattingRounds name rounds

/-- The end tag of a formatting element. -/
def closeFormatting (name : String) : Build Unit := do
  let b ← get
  match b.opened with
  | id :: _ =>
    if (b.arena.element id).isOneOf [name] && !b.formatting.contains (some id) then pop
    else closeFormattingRounds name 8
  | [] => return

end WlanAdmin.Html.Build
