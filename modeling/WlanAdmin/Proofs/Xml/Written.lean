import WlanAdmin.Proofs.Xml.Balanced
import WlanAdmin.Proofs.Xml.Escaping
import WlanAdmin.Xml.Element

/-!
# WlanAdmin.Proofs.Xml.Written

Written elements are read as what was written, whatever their attributes' values are.

* `PlainName` : a name that needs no care.
* `Passes`    : octets that do not end a tag.
* `stands_startTag`, `stands_emptyTag`, `stands_endTag` : the tags of a written element.
* `tagAttributes_writeTag`, `texts_writeTag` : the attributes of a written tag, and their texts.
-/

namespace WlanAdmin.Xml

/-- An octet that means nothing to the scanner and the readers of tags. -/
def IsPlain (b : UInt8) : Prop :=
  isBlank b = false ∧ b ∉ ([0x21, 0x22, 0x26, 0x27, 0x2F, 0x3A, 0x3C, 0x3D, 0x3E, 0x3F] : Bytes)

instance (b : UInt8) : Decidable (IsPlain b) := inferInstanceAs (Decidable (_ ∧ _))

/-- A name of plain octets, one at least. -/
structure PlainName (name : String) : Prop where
  nonempty : utf8 name ≠ []
  plain : ∀ b ∈ utf8 name, IsPlain b

instance (name : String) : Decidable (PlainName name) :=
  decidable_of_iff (utf8 name ≠ [] ∧ (utf8 name).all (fun b => decide (IsPlain b)) = true)
    ⟨fun h => ⟨h.1, by simpa using h.2⟩, fun h => ⟨h.1, by simpa using h.2⟩⟩

theorem PlainName.cons {name : String} (h : PlainName name) :
    ∃ b rest, utf8 name = b :: rest ∧ IsPlain b ∧ ∀ c ∈ rest, IsPlain c := by
  obtain ⟨b, rest, hname⟩ := List.exists_cons_of_ne_nil h.nonempty
  have plain := h.plain
  rw [hname] at plain
  exact ⟨b, rest, hname, List.forall_mem_cons.mp plain⟩

/-! ## Tags -/

/-- From inside `quote`, the octets are read without an end of the tag, up to inside `quote'`. -/
def Passes (quote : Option UInt8) (octets : Bytes) (quote' : Option UInt8) : Prop :=
  ∀ seen rest, cutAt tagStep quote seen (octets ++ rest) =
    cutAt tagStep quote' (octets.reverse ++ seen) rest

namespace Passes

variable {quote quote' quote'' : Option UInt8} {octets more : Bytes}

theorem nil : Passes quote [] quote := fun _ _ => rfl

theorem append (h : Passes quote octets quote') (hmore : Passes quote' more quote'') :
    Passes quote (octets ++ more) quote'' := by
  intro seen rest
  rw [List.append_assoc, h, hmore, List.reverse_append, List.append_assoc]

theorem single {b : UInt8} (h : tagStep quote b = some quote') : Passes quote [b] quote' := by
  intro seen rest
  rw [List.singleton_append, cutAt, h]
  rfl

theorem cons {b : UInt8} (h : tagStep quote b = some quote') (hmore : Passes quote' more quote'') :
    Passes quote (b :: more) quote'' := (single h).append hmore

theorem unquoted (h : ∀ b ∈ octets, b ≠ 0x22 ∧ b ≠ 0x27 ∧ b ≠ 0x3E) : Passes none octets none := by
  induction octets with
  | nil => exact nil
  | cons b octets ih =>
    obtain ⟨hdouble, hsingle, hangle⟩ := h b List.mem_cons_self
    have hstep : tagStep none b = some none := by simp [tagStep, hdouble, hsingle, hangle]
    exact cons hstep (ih fun c hc => h c (List.mem_cons_of_mem _ hc))

theorem quoted {q : UInt8} (h : ∀ b ∈ octets, b ≠ q) : Passes (some q) octets (some q) := by
  induction octets with
  | nil => exact nil
  | cons b octets ih =>
    have hstep : tagStep (some q) b = some (some q) := by
      simp [tagStep, h b List.mem_cons_self]
    exact cons hstep (ih fun c hc => h c (List.mem_cons_of_mem _ hc))

/-- Such a tag ends at the next angle bracket. -/
theorem cut (h : Passes none octets none) (rest : Bytes) :
    cutAt tagStep none [] (octets ++ 0x3E :: rest) = some (octets, rest) := by
  rw [h, List.append_nil, cutAt]
  simp [tagStep]

theorem plainName {name : String} (h : PlainName name) : Passes none (utf8 name) none := by
  refine unquoted fun b hb => ?_
  have := (h.plain b hb).2
  simp only [List.mem_cons, not_or] at this
  exact ⟨this.2.1, this.2.2.2.1, this.2.2.2.2.2.2.2.2.1⟩

theorem attr {escaping : Escaping} {attr : String × String} (h : PlainName attr.1) :
    Passes none (writeAttribute escaping attr) none := by
  have hvalue : Passes (some 0x22) (escaping.value (utf8 attr.2)) (some 0x22) :=
    quoted fun b hb => (escaping.value_clean (utf8 attr.2) b hb).2.2
  have hname : Passes none (0x20 :: utf8 attr.1) none := cons rfl (plainName h)
  have hequals : Passes none [0x3D] none := single rfl
  have hopen : Passes none [0x3D, 0x22] (some 0x22) := hequals.append (single rfl)
  have hclose : Passes (some 0x22) [0x22] none := single rfl
  exact ((hname.append hopen).append hvalue).append hclose

theorem writtenTag {escaping : Escaping} {name : String} {attrs : List (String × String)}
    (hname : PlainName name) (hattrs : ∀ attr ∈ attrs, PlainName attr.1) :
    Passes none (writeTag escaping name attrs) none := by
  refine (plainName hname).append ?_
  induction attrs with
  | nil => exact nil
  | cons attr attrs ih =>
    exact (Passes.attr (hattrs attr List.mem_cons_self)).append
      (ih fun a ha => hattrs a (List.mem_cons_of_mem _ ha))

end Passes

/-- A tag whose octets are not those of other markup. -/
theorem markup_tag {b : UInt8} {body : Bytes} (hb : IsPlain b) (h : Passes none (b :: body) none) :
    markup (b :: (body ++ [0x3E])) = .lexeme (tagLexeme (b :: body)) [] := by
  have hcut : cutAt tagStep none [] (b :: (body ++ [0x3E])) = some (b :: body, []) := h.cut []
  obtain ⟨-, hb⟩ := hb
  simp only [List.mem_cons, not_or] at hb
  rw [markup]
  · rw [hcut]
    rfl
  · intro h
    cases h
  · rintro rest ⟨⟩
    exact hb.1 rfl
  · rintro rest ⟨⟩
    exact hb.2.2.2.2.2.2.2.2.2.1 rfl
  · rintro rest ⟨⟩
    exact hb.2.2.2.2.1 rfl

theorem tagLexeme_slash (body : Bytes) : tagLexeme (body ++ [0x2F]) = .emptyTag body := by
  rw [tagLexeme, if_pos List.getLast?_concat, List.dropLast_concat]

section

variable {escaping : Escaping} {name : String} {attrs : List (String × String)}

theorem writeTag_getLast (hname : PlainName name) :
    (writeTag escaping name attrs).getLast? ≠ some 0x2F := by
  rcases List.eq_nil_or_concat attrs with rfl | ⟨others, attr, rfl⟩
  · intro h
    rw [writeTag, List.flatMap_nil, List.append_nil] at h
    have := (hname.plain 0x2F (List.mem_of_getLast? h)).2
    revert this
    decide
  · rw [List.concat_eq_append, writeTag, List.flatMap_append, List.flatMap_cons,
      List.flatMap_nil, List.append_nil, writeAttribute, ← List.append_assoc, ← List.append_assoc,
      List.getLast?_concat]
    decide

theorem stands_startTag (hname : PlainName name) (hattrs : ∀ attr ∈ attrs, PlainName attr.1) :
    (Lexeme.startTag (writeTag escaping name attrs)).Stands := by
  have hpasses : Passes none (writeTag escaping name attrs) none := .writtenTag hname hattrs
  have hlast : (writeTag escaping name attrs).getLast? ≠ some 0x2F := writeTag_getLast hname
  obtain ⟨b, rest, hcons, hb, -⟩ := hname.cons
  rw [writeTag, hcons, List.cons_append] at hpasses hlast ⊢
  refine reads_of_next ?_ reads_nil
  show markup (b :: (_ ++ [0x3E])) = _
  rw [markup_tag hb hpasses, tagLexeme, if_neg hlast]

theorem stands_emptyTag (hname : PlainName name) (hattrs : ∀ attr ∈ attrs, PlainName attr.1) :
    (Lexeme.emptyTag (writeTag escaping name attrs)).Stands := by
  have htag : Passes none (writeTag escaping name attrs) none := .writtenTag hname hattrs
  have hpasses : Passes none (writeTag escaping name attrs ++ [0x2F]) none :=
    htag.append (.single rfl)
  obtain ⟨b, rest, hcons, hb, -⟩ := hname.cons
  rw [writeTag, hcons, List.cons_append] at hpasses ⊢
  generalize rest ++ attrs.flatMap (writeAttribute escaping) = body at hpasses ⊢
  refine reads_of_next ?_ reads_nil
  have hsource : (Lexeme.emptyTag (b :: body)).source =
      0x3C :: b :: ((body ++ [0x2F]) ++ [0x3E]) := by
    simp [Lexeme.source]
  rw [hsource]
  exact (markup_tag hb hpasses).trans (congrArg (Step.lexeme · []) (tagLexeme_slash (b :: body)))

theorem stands_endTag (hname : PlainName name) : (Lexeme.endTag (utf8 name)).Stands := by
  refine reads_of_next ?_ reads_nil
  show Step.ofCut (fun _ => true) Lexeme.endTag (cutAt tagStep none [] (utf8 name ++ [0x3E])) = _
  rw [(Passes.plainName hname).cut []]
  rfl

/-! ## The name and the attributes -/

/-- The attributes, as octets, start with a blank if there are any. -/
theorem head_attributes : ∀ b ∈ (attrs.flatMap (writeAttribute escaping)).head?, b = 0x20 := by
  cases attrs with
  | nil => nofun
  | cons attr attrs =>
    rintro b ⟨⟩
    rfl

theorem tagName_writeTag (hname : PlainName name) :
    tagName (writeTag escaping name attrs) = utf8 name := by
  rw [tagName, writeTag, List.takeWhile_append_of_pos, takeWhile_head, List.append_nil]
  · intro b hb
    rw [head_attributes b hb]
    rfl
  · intro b hb
    simp [(hname.plain b hb).1]

theorem tagRest_writeTag (hname : PlainName name) :
    tagRest (writeTag escaping name attrs) = attrs.flatMap (writeAttribute escaping) := by
  rw [tagRest, writeTag, List.dropWhile_append_of_pos, dropWhile_head]
  · intro b hb
    rw [head_attributes b hb]
    rfl
  · intro b hb
    simp [(hname.plain b hb).1]

theorem endName_plain (hname : PlainName name) : endName (utf8 name) = utf8 name := by
  rw [endName]
  split
  · rfl
  · rw [dropWhile_head, List.reverse_reverse]
    intro b hb
    exact (hname.plain b (List.mem_reverse.mp (List.mem_of_mem_head? hb))).1

theorem localName_plain (hname : PlainName name) : localName (utf8 name) = utf8 name := by
  have hcolon : (utf8 name).dropWhile (· != 0x3A) = [] := by
    have hall : ∀ b ∈ utf8 name, (b != 0x3A) = true := by
      intro b hb
      have := (hname.plain b hb).2
      simp only [List.mem_cons, not_or] at this
      simpa using this.2.2.2.2.2.1
    have : (utf8 name ++ []).dropWhile (· != 0x3A) = [] := List.dropWhile_append_of_pos hall
    rwa [List.append_nil] at this
  rw [localName, hcolon]

/-- The attribute that is read where one was written. -/
def writtenAttribute (escaping : Escaping) (attr : String × String) : Attribute :=
  ⟨utf8 attr.1, escaping.value (utf8 attr.2)⟩

theorem attributeValue_quoted (name : Bytes) {value : Bytes} (h : ∀ c ∈ value, c ≠ 0x22)
    (rest : Bytes) :
    attributeValue name (0x22 :: (value ++ 0x22 :: rest)) = .found ⟨name, value⟩ rest := by
  have hquote : isBlank 0x22 = false := rfl
  have hvalue : ∀ c ∈ value, (c != 0x22) = true := fun c hc => by simpa using h c hc
  rw [attributeValue, List.dropWhile_cons_of_neg (by simp [hquote])]
  simp only [List.takeWhile_append_of_pos hvalue, List.dropWhile_append_of_pos hvalue]
  simp

theorem nextAttribute_written (escaping : Escaping) {attr : String × String}
    (h : PlainName attr.1) (rest : Bytes) :
    nextAttribute (writeAttribute escaping attr ++ rest) =
      .found (writtenAttribute escaping attr) rest := by
  obtain ⟨b, tail, hname, hb, htail⟩ := h.cons
  have hvalue : ∀ c ∈ escaping.value (utf8 attr.2), c ≠ 0x22 := fun c hc =>
    (escaping.value_clean (utf8 attr.2) c hc).2.2
  have hnameByte : ∀ c ∈ tail, (c != 0x3D && !isBlank c) = true := by
    intro c hc
    obtain ⟨hblank, hc⟩ := htail c hc
    simp only [List.mem_cons, not_or] at hc
    simp [hblank, hc.2.2.2.2.2.2.2.1]
  have hspace : isBlank 0x20 = true := rfl
  have hinput : (writeAttribute escaping attr ++ rest).dropWhile isBlank =
      b :: (tail ++ 0x3D :: 0x22 :: (escaping.value (utf8 attr.2) ++ 0x22 :: rest)) := by
    simp [writeAttribute, hname, hb.1, hspace]
  rw [nextAttribute, hinput]
  simp only
  rw [List.takeWhile_append_of_pos hnameByte, List.dropWhile_append_of_pos hnameByte]
  refine (attributeValue_quoted _ hvalue rest).trans ?_
  rw [writtenAttribute, hname]
  simp

/-- Written attributes are read one by one; their names differ from each other and from those that
were there before. -/
theorem readAttributes_written (names : List Bytes) (hattrs : ∀ attr ∈ attrs, PlainName attr.1)
    (distinct : (attrs.map Prod.fst).Nodup) (fresh : ∀ attr ∈ attrs, utf8 attr.1 ∉ names) :
    readAttributes names (attrs.flatMap (writeAttribute escaping)) =
      ⟨attrs.map (writtenAttribute escaping), true⟩ := by
  induction attrs generalizing names with
  | nil =>
    rw [readAttributes]
    rfl
  | cons attr attrs ih =>
    obtain ⟨hne, distinct⟩ := List.nodup_cons.mp distinct
    have hplain := hattrs attr List.mem_cons_self
    have hnext := nextAttribute_written escaping hplain (attrs.flatMap (writeAttribute escaping))
    have hfresh : (writtenAttribute escaping attr).name ∉ names := fresh attr List.mem_cons_self
    have hrest := ih ((writtenAttribute escaping attr).name :: names)
      (fun a ha => hattrs a (List.mem_cons_of_mem _ ha)) distinct fun a ha hm => by
        rcases List.mem_cons.mp hm with he | hm
        · exact hne (List.mem_map.mpr ⟨a, ha, utf8_inj he⟩)
        · exact fresh a (List.mem_cons_of_mem _ ha) hm
    rw [List.flatMap_cons, readAttributes]
    split
    · rename_i h'; rw [hnext] at h'; cases h'
    · rename_i h'; rw [hnext] at h'; cases h'
    · rename_i h'
      rw [hnext] at h'
      cases h'
      rw [if_neg hfresh, hrest]
      rfl

theorem tagAttributes_writeTag (hname : PlainName name)
    (hattrs : ∀ attr ∈ attrs, PlainName attr.1) (distinct : (attrs.map Prod.fst).Nodup) :
    tagAttributes (writeTag escaping name attrs) =
      ⟨attrs.map (writtenAttribute escaping), true⟩ := by
  rw [tagAttributes, tagRest_writeTag hname]
  exact readAttributes_written [] hattrs distinct fun _ _ => List.not_mem_nil

/-- Once their references are resolved, the values are those that were written. -/
theorem texts_writeTag (hname : PlainName name) (hattrs : ∀ attr ∈ attrs, PlainName attr.1)
    (distinct : (attrs.map Prod.fst).Nodup) :
    (tagAttributes (writeTag escaping name attrs)).all.map (fun attr => (attr.name, attr.text?)) =
      attrs.map fun attr => (utf8 attr.1, some attr.2) := by
  rw [tagAttributes_writeTag hname hattrs distinct, List.map_map]
  refine List.map_congr_left fun attr _ => congrArg (Prod.mk (utf8 attr.1)) ?_
  rw [Attribute.text?, writtenAttribute, unescape_value, Option.bind_some, text?_utf8]

end

end WlanAdmin.Xml
