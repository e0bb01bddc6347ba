import WlanAdmin.Domain.Composition

/-!
# WlanAdmin.Proofs.Domain.Marks

The order of marks. Sorting keeps marks of the same class as they stand, so the order in which
marks of different classes are met does not matter, and what is in order stays as it is.

* `sorted_eq_of_ofClass` : a run is sorted into what its marks of each class say.
* `Alike.swap` : two neighbouring marks of different classes can change places.
* `orderMarks_of_inOrder` : a text that is in order stays.
* `inOrder_orderMarks` : the marks of a text are put in order.
-/

namespace WlanAdmin.Domain

/-! ## Sorting by class -/

/-- Characters stand in the order of their classes. -/
def ByClass (text : List Char) : Prop :=
  text.Pairwise fun a b => combiningClass a ≤ combiningClass b

/-- Those of a text that are of one class. -/
def ofClass (k : Nat) (text : List Char) : List Char :=
  text.filter fun c => combiningClass c == k

theorem ofClass_cons (k : Nat) (c : Char) (text : List Char) :
    ofClass k (c :: text) = (if combiningClass c = k then [c] else []) ++ ofClass k text := by
  rw [ofClass, List.filter_cons]
  by_cases same : combiningClass c = k <;> simp [same, ofClass]

theorem ByClass.head_le {a b : Char} {s t : List Char} (h : ByClass (b :: t))
    (same : ∀ k, ofClass k (a :: s) = ofClass k (b :: t)) :
    combiningClass b ≤ combiningClass a := by
  have mem : a ∈ ofClass (combiningClass a) (b :: t) := by
    rw [← same, ofClass_cons, if_pos rfl]
    exact List.mem_cons_self
  rcases List.mem_cons.mp (List.mem_filter.mp mem).1 with rfl | mem
  · exact Nat.le_refl _
  · exact (List.pairwise_cons.mp h).1 a mem

/-- What stands in the order of classes is known from the characters of each class. -/
theorem ByClass.eq_of_ofClass {s t : List Char} (hs : ByClass s) (ht : ByClass t)
    (same : ∀ k, ofClass k s = ofClass k t) : s = t := by
  induction s generalizing t with
  | nil =>
    cases t with
    | nil => rfl
    | cons b t => simpa [ofClass_cons, ofClass] using same (combiningClass b)
  | cons a s ih =>
    cases t with
    | nil => simpa [ofClass_cons, ofClass] using same (combiningClass a)
    | cons b t =>
      have classes : combiningClass a = combiningClass b :=
        Nat.le_antisymm (hs.head_le fun k => (same k).symm) (ht.head_le same)
      have heads := same (combiningClass b)
      rw [ofClass_cons, ofClass_cons, if_pos classes, if_pos rfl] at heads
      obtain ⟨rfl, -⟩ := List.cons.inj heads
      rw [ih (List.pairwise_cons.mp hs).2 (List.pairwise_cons.mp ht).2 fun k => ?_]
      have := same k
      rwa [ofClass_cons, ofClass_cons, List.append_cancel_left_eq] at this

/-- The order that runs are sorted in. -/
abbrev classLE (a b : Char) : Bool := combiningClass a ≤ combiningClass b

theorem classLE_trans (a b c : Char) : classLE a b → classLE b c → classLE a c := by
  simpa using Nat.le_trans

theorem classLE_total (a b : Char) : (classLE a b || classLE b a) = true := by
  simpa using Nat.le_total ..

theorem byClass_sorted (run : List Char) : ByClass (orderMarks.sorted run) :=
  (List.pairwise_mergeSort classLE_trans classLE_total run.reverse).imp of_decide_eq_true

theorem ofClass_sorted (k : Nat) (run : List Char) :
    ofClass k (orderMarks.sorted run) = ofClass k run.reverse := by
  have inside : (ofClass k run.reverse).Sublist (orderMarks.sorted run) := by
    refine List.sublist_mergeSort classLE_trans classLE_total ?_ List.filter_sublist
    refine List.pairwise_of_forall_mem_list fun a ha b hb => ?_
    have ka := (List.mem_filter.mp ha).2
    have kb := (List.mem_filter.mp hb).2
    simp_all [classLE]
  have kept : ofClass k (ofClass k run.reverse) = ofClass k run.reverse := by
    simp [ofClass]
  refine Eq.symm (List.Sublist.eq_of_length ?_ ?_)
  · rw [← kept]
    exact inside.filter _
  · exact ((List.mergeSort_perm run.reverse classLE).filter _).length_eq.symm

/-- A run is sorted into what its marks of each class say. -/
theorem sorted_eq_of_ofClass {a b : List Char} (same : ∀ k, ofClass k a = ofClass k b) :
    orderMarks.sorted a = orderMarks.sorted b := by
  refine (byClass_sorted a).eq_of_ofClass (byClass_sorted b) fun k => ?_
  rw [ofClass_sorted, ofClass_sorted, ofClass, ofClass, List.filter_reverse, List.filter_reverse]
  exact congrArg List.reverse (same k)

/-! ## Texts that are ordered alike -/

theorem orderMarks_base {c : Char} (base : combiningClass c = 0) (run text : List Char) :
    orderMarks run (c :: text) = orderMarks.sorted run ++ c :: orderMarks [] text :=
  (orderMarks.eq_2 run c text).trans (if_pos base)

theorem orderMarks_mark {c : Char} (mark : combiningClass c ≠ 0) (run text : List Char) :
    orderMarks run (c :: text) = orderMarks (c :: run) text :=
  (orderMarks.eq_2 run c text).trans (if_neg mark)

/-- Marks are ordered alike in two texts, whatever run they come after. -/
def Alike (s t : List Char) : Prop := ∀ run, orderMarks run s = orderMarks run t

theorem Alike.refl (s : List Char) : Alike s s := fun _ => rfl

theorem Alike.trans {s t u : List Char} (h : Alike s t) (h' : Alike t u) : Alike s u :=
  fun run => (h run).trans (h' run)

theorem Alike.cons {s t : List Char} (c : Char) (h : Alike s t) : Alike (c :: s) (c :: t) := by
  intro run
  by_cases base : combiningClass c = 0
  · rw [orderMarks_base base, orderMarks_base base, h []]
  · rw [orderMarks_mark base, orderMarks_mark base, h]

theorem Alike.append {s t : List Char} (front : List Char) (h : Alike s t) :
    Alike (front ++ s) (front ++ t) := by
  induction front with
  | nil => exact h
  | cons c front ih => exact ih.cons c

theorem orderMarks_congr {a b : List Char} (same : ∀ k, ofClass k a = ofClass k b)
    (text : List Char) : orderMarks a text = orderMarks b text := by
  induction text generalizing a b with
  | nil => exact sorted_eq_of_ofClass same
  | cons c text ih =>
    by_cases base : combiningClass c = 0
    · rw [orderMarks_base base, orderMarks_base base, sorted_eq_of_ofClass same]
    · rw [orderMarks_mark base, orderMarks_mark base]
      exact ih fun k => by rw [ofClass_cons, ofClass_cons, same k]

/-- Two neighbouring marks of different classes can change places. -/
theorem Alike.swap {a b : Char} (ha : combiningClass a ≠ 0) (hb : combiningClass b ≠ 0)
    (different : combiningClass a ≠ combiningClass b) (text : List Char) :
    Alike (a :: b :: text) (b :: a :: text) := by
  intro run
  rw [orderMarks_mark ha, orderMarks_mark hb, orderMarks_mark hb, orderMarks_mark ha]
  refine orderMarks_congr (fun k => ?_) text
  rw [ofClass_cons, ofClass_cons, ofClass_cons, ofClass_cons]
  by_cases of_a : combiningClass a = k
  · have of_b : combiningClass b ≠ k := fun of_b => different (of_a.trans of_b.symm)
    rw [if_pos of_a, if_neg of_b, List.nil_append, List.nil_append]
  · rw [if_neg of_a, List.nil_append, List.nil_append]

/-- A character can be moved over marks of lower classes. -/
theorem Alike.move {c : Char} {marks : List Char}
    (lower : ∀ m ∈ marks, combiningClass m ≠ 0 ∧ combiningClass m < combiningClass c)
    (text : List Char) : Alike (c :: marks ++ text) (marks ++ c :: text) := by
  induction marks with
  | nil => exact .refl _
  | cons m marks ih =>
    have ⟨mark, less⟩ := lower m List.mem_cons_self
    exact (Alike.swap (Nat.ne_zero_of_lt less) mark (Nat.ne_of_gt less) _).trans
      ((ih fun m mem => lower m (List.mem_cons_of_mem _ mem)).cons m)

/-! ## Texts in order -/

/-- Marks stand in order after a character of some class. -/
def InOrder : (last : Nat) → List Char → Prop
  | _, [] => True
  | last, c :: rest =>
    (combiningClass c = 0 ∨ last ≤ combiningClass c) ∧ InOrder (combiningClass c) rest

theorem InOrder.base {c : Char} {text : List Char} {last : Nat} (base : combiningClass c = 0)
    (h : InOrder 0 text) : InOrder last (c :: text) := by
  rw [InOrder, base]
  exact ⟨.inl rfl, h⟩

/-- Marks in order, the last first, that a text can follow in which marks stand in order after one
of some class. -/
structure Stacked (last : Nat) (marks : List Char) : Prop where
  nonzero : ∀ m ∈ marks, combiningClass m ≠ 0
  le_last : ∀ m ∈ marks, combiningClass m ≤ last
  ordered : ByClass marks.reverse

theorem Stacked.nil (last : Nat) : Stacked last [] := ⟨nofun, nofun, .nil⟩

theorem Stacked.push {last : Nat} {marks : List Char} {c : Char} (h : Stacked last marks)
    (hc : combiningClass c ≠ 0) (le : last ≤ combiningClass c) :
    Stacked (combiningClass c) (c :: marks) where
  nonzero := List.forall_mem_cons.mpr ⟨hc, h.nonzero⟩
  le_last := List.forall_mem_cons.mpr
    ⟨Nat.le_refl _, fun m mem => Nat.le_trans (h.le_last m mem) le⟩
  ordered := by
    rw [List.reverse_cons, ByClass, List.pairwise_append]
    refine ⟨h.ordered, List.pairwise_singleton .., fun a ha b hb => ?_⟩
    rw [List.mem_singleton.mp hb]
    exact Nat.le_trans (h.le_last a (List.mem_reverse.mp ha)) le

/-- A character that reaches over the last mark can be moved over them all. -/
theorem Stacked.reach {last : Nat} {marks : List Char} {c : Char} (h : Stacked last marks)
    (reached : reaches marks c = true) (text : List Char) :
    Stacked (combiningClass c) marks ∧
      Alike (c :: marks.reverse ++ text) (marks.reverse ++ c :: text) := by
  have lower : ∀ m ∈ marks, combiningClass m < combiningClass c := by
    cases marks with
    | nil => nofun
    | cons top marks =>
      have less := of_decide_eq_true reached
      have ordered := h.ordered
      rw [List.reverse_cons, ByClass, List.pairwise_append] at ordered
      refine List.forall_mem_cons.mpr ⟨less, fun m mem => Nat.lt_of_le_of_lt ?_ less⟩
      exact ordered.2.2 m (List.mem_reverse.mpr mem) top List.mem_cons_self
  refine ⟨⟨h.nonzero, fun m mem => Nat.le_of_lt (lower m mem), h.ordered⟩, ?_⟩
  exact .move (fun m mem => ⟨h.nonzero m (List.mem_reverse.mp mem),
    lower m (List.mem_reverse.mp mem)⟩) text

/-- A text that is in order stays. -/
theorem Stacked.orderMarks {last : Nat} {run text : List Char} (h : Stacked last run)
    (order : InOrder last text) : Domain.orderMarks run text = run.reverse ++ text := by
  have sorted : orderMarks.sorted run = run.reverse :=
    List.mergeSort_of_pairwise (h.ordered.imp decide_eq_true)
  induction text generalizing last run with
  | nil => rw [Domain.orderMarks, sorted, List.append_nil]
  | cons c text ih =>
    obtain ⟨at_c, order⟩ := order
    by_cases base : combiningClass c = 0
    · rw [orderMarks_base base, sorted, ih (Stacked.nil _) order (List.mergeSort_nil)]
      rfl
    · have pushed := h.push base (at_c.resolve_left base)
      rw [orderMarks_mark base,
        ih pushed order (List.mergeSort_of_pairwise (pushed.ordered.imp decide_eq_true)),
        List.reverse_cons, List.append_assoc, List.singleton_append]

theorem orderMarks_of_inOrder {text : List Char} (h : InOrder 0 text) : orderMarks [] text = text :=
  (Stacked.nil 0).orderMarks h

theorem ByClass.inOrder {text rest : List Char} {last : Nat} (h : ByClass text)
    (from_last : ∀ c ∈ text, last ≤ combiningClass c) (order : ∀ last, InOrder last rest) :
    InOrder last (text ++ rest) := by
  induction text generalizing last with
  | nil => exact order last
  | cons c text ih =>
    obtain ⟨least, h⟩ := List.pairwise_cons.mp h
    exact ⟨.inr (from_last c List.mem_cons_self), ih h least⟩

/-- The marks of a text are put in order. -/
theorem inOrder_orderMarks (run text : List Char) : InOrder 0 (orderMarks run text) := by
  induction text generalizing run with
  | nil =>
    have := @ByClass.inOrder _ [] 0 (byClass_sorted run) (fun _ _ => Nat.zero_le _) fun _ => trivial
    rwa [List.append_nil] at this
  | cons c text ih =>
    by_cases base : combiningClass c = 0
    · rw [orderMarks_base base]
      exact (byClass_sorted run).inOrder (fun _ _ => Nat.zero_le _) fun _ => .base base (ih [])
    · rw [orderMarks_mark base]
      exact ih _

/-- Nothing is added and nothing lost. -/
theorem mem_orderMarks {run text : List Char} {c : Char} :
    c ∈ orderMarks run text ↔ c ∈ run ∨ c ∈ text := by
  induction text generalizing run with
  | nil => simp [orderMarks, orderMarks.sorted, List.mem_mergeSort]
  | cons d text ih =>
    by_cases base : combiningClass d = 0
    · rw [orderMarks_base base]
      simp [orderMarks.sorted, List.mem_mergeSort, ih]
    · rw [orderMarks_mark base, ih, List.mem_cons, List.mem_cons, or_assoc, or_left_comm]

/-- A character that is no mark sets apart what is before it and after it. -/
theorem orderMarks_append {c : Char} (base : combiningClass c = 0) (run s t : List Char) :
    orderMarks run (s ++ c :: t) = orderMarks run s ++ c :: orderMarks [] t := by
  induction s generalizing run with
  | nil => rw [List.nil_append, orderMarks_base base, orderMarks.eq_1]
  | cons d s ih =>
    rw [List.cons_append]
    by_cases base : combiningClass d = 0
    · rw [orderMarks_base base, orderMarks_base base, ih, List.append_assoc, List.cons_append]
    · rw [orderMarks_mark base, orderMarks_mark base, ih]

end WlanAdmin.Domain
