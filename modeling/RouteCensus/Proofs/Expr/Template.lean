import Mathlib.Data.List.Infix
import RouteCensus.Proofs.Expr.Leaves
import RouteCensus.Proofs.Text.Utf8

/-! # Source text of a template

A tree fits a source when its spans are nested, in order and between characters,
and every node carries the bytes it spans.  Then the fixed parts of a template
are the stretches of the source between its marks and its substitutions.
-/

namespace RouteCensus

open Text.Utf8

/-- The byte offsets between the characters of a text that starts at an offset. -/
def charOffsets (start : Nat) : List Char → List Nat
  | [] => [start]
  | c :: rest => start :: charOffsets (start + (String.utf8EncodeChar c).length) rest

/-- The source from byte `first` up to byte `last` is the given text. -/
def Between (source : List Char) (first last : Nat) (s : List Char) : Prop :=
  ∃ before after, source = before ++ s ++ after ∧
    (encode before).length = first ∧ (encode (before ++ s)).length = last

/-- The nodes stand one after the other from `first` up to `last`. -/
def Ordered (first last : Nat) : List Node → Prop
  | [] => first ≤ last
  | n :: rest =>
    first ≤ n.label.start ∧ n.label.start ≤ n.label.stop ∧ Ordered n.label.stop last rest

instance (first last : Nat) (nodes : List Node) : Decidable (Ordered first last nodes) :=
  match nodes with
  | [] => inferInstanceAs (Decidable (first ≤ last))
  | n :: rest =>
    have : Decidable (Ordered n.label.stop last rest) := instDecidableOrdered n.label.stop last rest
    inferInstanceAs (Decidable (_ ∧ _ ∧ _))

namespace Node

/-- The span of a node lies between characters of the source, around the spans of its children. -/
def Spanned (source : List Char) (n : Node) : Prop :=
  n.label.start ∈ charOffsets 0 source ∧ n.label.stop ∈ charOffsets 0 source ∧
    n.label.bytes = ((encode source).take n.label.stop).drop n.label.start ∧
      Ordered n.label.start n.label.stop n.children

instance (source : List Char) (n : Node) : Decidable (n.Spanned source) :=
  inferInstanceAs (Decidable (_ ∧ _ ∧ _ ∧ _))

/-- One of the two marks around the text of a template. -/
def IsMark (place : Nat) (n : Node) : Prop :=
  n.kind = "`" ∧ n.label.start = place ∧ n.label.stop = place + 1

instance (place : Nat) (n : Node) : Decidable (n.IsMark place) :=
  inferInstanceAs (Decidable (_ ∧ _ ∧ _))

/-- A template begins with a mark and ends with another. -/
def Quoted (n : Node) : Prop :=
  n.kind = "template_string" →
    ∃ opening ∈ n.children.head?, ∃ closing ∈ n.children.tail.getLast?,
      opening.IsMark n.label.start ∧ closing.IsMark (n.label.stop - 1)

instance (n : Node) : Decidable n.Quoted :=
  inferInstanceAs (Decidable (_ → _))

end Node

/-- The pieces of the source from `first` up to `last`, cut at the substitutions. -/
inductive Segments (source : List Char) (inner? : Node → Option Node) :
    Nat → Nat → List Node → List UrlPiece → Prop where
  | last {first last : Nat} {s : List Char} (h : Between source first last s) :
    Segments source inner? first last [] [.text s]
  | cut {first last : Nat} {s : List Char} {sub : Node} {subs : List Node} {pieces : List UrlPiece}
    (h : Between source first sub.label.start s)
    (hrest : Segments source inner? sub.label.stop last subs pieces) :
    Segments source inner? first last (sub :: subs) (.text s :: .hole (inner? sub) :: pieces)

theorem encode_append (s t : List Char) : encode (s ++ t) = encode s ++ encode t :=
  List.flatMap_append

theorem encode_eq_nil {s : List Char} (h : (encode s).length = 0) : s = [] := by
  cases s with
  | nil => rfl
  | cons c rest =>
    have hpos := c.utf8Size_pos
    rw [encode, List.flatMap_cons, List.length_append, String.length_utf8EncodeChar] at h
    omega

theorem mem_charOffsets {start place : Nat} {s : List Char} (h : place ∈ charOffsets start s) :
    ∃ before after, s = before ++ after ∧ start + (encode before).length = place := by
  induction s generalizing start with
  | nil =>
    obtain rfl := List.mem_singleton.1 h
    exact ⟨[], [], rfl, rfl⟩
  | cons c rest ih =>
    rcases List.mem_cons.1 h with rfl | h
    · exact ⟨[], c :: rest, rfl, rfl⟩
    · obtain ⟨before, after, rfl, hplace⟩ := ih h
      refine ⟨c :: before, after, rfl, ?_⟩
      rw [← hplace, encode, encode, List.flatMap_cons, List.length_append]
      omega

/-- Between two offsets there is a text. -/
theorem between_of_le {source : List Char} {first last : Nat}
    (hfirst : first ∈ charOffsets 0 source) (hlast : last ∈ charOffsets 0 source)
    (h : first ≤ last) : ∃ s, Between source first last s := by
  obtain ⟨b₁, a₁, h₁, hp₁⟩ := mem_charOffsets hfirst
  obtain ⟨b₂, a₂, h₂, hp₂⟩ := mem_charOffsets hlast
  rw [Nat.zero_add] at hp₁ hp₂
  rcases List.prefix_or_prefix_of_prefix ⟨a₁, h₁.symm⟩ ⟨a₂, h₂.symm⟩ with ⟨s, hs⟩ | ⟨s, hs⟩
  · exact ⟨s, b₁, a₂, by rw [hs, h₂], hp₁, by rw [hs, hp₂]⟩
  · -- The offsets are in order, so the longer prefix has no byte more.
    have hlength := congrArg (fun t => (encode t).length) hs
    simp only [encode_append, List.length_append] at hlength
    obtain rfl := encode_eq_nil (s := s) (by omega)
    rw [List.append_nil] at hs
    exact ⟨[], b₁, a₁, by rw [List.append_nil, h₁], hp₁, by rw [List.append_nil]; omega⟩

theorem Between.slice {source s : List Char} {first last : Nat} (h : Between source first last s) :
    ((encode source).take last).drop first = encode s := by
  obtain ⟨before, after, rfl, rfl, rfl⟩ := h
  rw [encode_append (before ++ s), List.take_left, encode_append, List.drop_left]

theorem Between.unique {source s t : List Char} {first last : Nat}
    (hs : Between source first last s) (ht : Between source first last t) : s = t := by
  rw [← decodeLenient_encode s, ← hs.slice, ht.slice, decodeLenient_encode]

theorem Segments.unique {source : List Char} {inner? : Node → Option Node} {first last : Nat}
    {subs : List Node}
    {pieces pieces' : List UrlPiece} (h : Segments source inner? first last subs pieces)
    (h' : Segments source inner? first last subs pieces') : pieces = pieces' := by
  induction h generalizing pieces' with
  | last h =>
    cases h' with
    | last h' => rw [h.unique h']
  | cut h _ ih =>
    cases h' with
    | cut h' hrest' => rw [h.unique h', ih hrest']

/-- A part of the bytes of a node is the text of the source between the offsets it has there. -/
theorem textBetween_eq {source s : List Char} {start stop first last : Nat}
    (h : Between source first last s)
    (hfirst : start ≤ first) (hle : first ≤ last) (hlast : last ≤ stop) :
    textBetween (((encode source).take stop).drop start) (first - start) (last - start) = s := by
  have hslice :
      ((((encode source).take stop).drop start).take (last - start)).drop (first - start) =
        encode s := by
    rw [List.take_drop, List.take_take, List.drop_drop,
      Nat.add_sub_cancel' (Nat.le_trans hfirst hle), Nat.min_eq_left hlast,
      Nat.add_sub_cancel' hfirst, h.slice]
  rw [textBetween, hslice, decodeLenient_encode]

theorem le_of_mem_charOffsets {source : List Char} {place : Nat}
    (h : place ∈ charOffsets 0 source) :
    place ≤ (encode source).length := by
  obtain ⟨before, after, rfl, hplace⟩ := mem_charOffsets h
  rw [encode_append, List.length_append]
  omega

theorem Node.Spanned.length_bytes {source : List Char} {n : Node} (h : n.Spanned source) :
    n.label.bytes.length = n.label.stop - n.label.start := by
  obtain ⟨-, hstop, hbytes, -⟩ := h
  rw [hbytes, List.length_drop, List.length_take, Nat.min_eq_left (le_of_mem_charOffsets hstop)]

theorem Ordered.le {first last : Nat} {nodes : List Node} (h : Ordered first last nodes) :
    first ≤ last := by
  induction nodes generalizing first with
  | nil => exact h
  | cons n rest ih =>
    obtain ⟨hfirst, hspan, hrest⟩ := h
    exact Nat.le_trans hfirst (Nat.le_trans hspan (ih hrest))

theorem Ordered.concat {first last : Nat} {nodes : List Node} {n : Node}
    (h : Ordered first last (nodes ++ [n])) :
    Ordered first n.label.start nodes ∧ n.label.stop ≤ last := by
  induction nodes generalizing first with
  | nil => exact ⟨h.1, h.2.2⟩
  | cons m rest ih =>
    obtain ⟨hfirst, hspan, hrest⟩ := h
    exact ⟨⟨hfirst, hspan, (ih hrest).1⟩, (ih hrest).2⟩

theorem templatePiecesFrom_concat (bytes : List UInt8) (base cursor : Nat) (nodes : List Node)
    {n : Node} (h : (n.kind == "template_substitution") = false) :
    templatePiecesFrom bytes base cursor (nodes ++ [n]) =
      templatePiecesFrom bytes base cursor nodes := by
  induction nodes generalizing cursor with
  | nil => simp only [List.nil_append, templatePiecesFrom, h, if_neg Bool.false_ne_true]
  | cons m rest ih => rw [List.cons_append, templatePiecesFrom, templatePiecesFrom, ih, ih]

/-- The walk over the nodes inside the marks cuts the source at the substitutions.  The cursor may
lag behind the nodes seen so far, as only substitutions move it. -/
theorem segments_templatePiecesFrom {source : List Char} {inner? : Node → Option Node} {n : Node}
    (hn : n.Spanned source) (hend : n.label.stop - 1 ∈ charOffsets 0 source) {first low : Nat}
    {nodes : List Node}
    (hfirst : first ∈ charOffsets 0 source) (hstart : n.label.start ≤ first) (hlow : first ≤ low)
    (hordered : Ordered low (n.label.stop - 1) nodes) (hspans : ∀ m ∈ nodes, m.Spanned source)
    (hholds : ∀ m ∈ nodes, m.kind = "template_substitution" → inner? m = m.firstNamed?) :
    Segments source inner? first (n.label.stop - 1)
      (nodes.filter fun m => m.kind == "template_substitution")
      (templatePiecesFrom n.label.bytes n.label.start (first - n.label.start) nodes) := by
  induction nodes generalizing first low with
  | nil =>
    have hle : first ≤ n.label.stop - 1 := Nat.le_trans hlow hordered
    obtain ⟨s, hs⟩ := between_of_le hfirst hend hle
    have htext := textBetween_eq hs hstart hle (Nat.sub_le _ 1)
    rw [← hn.2.2.1] at htext
    rw [templatePiecesFrom, hn.length_bytes, Nat.sub_right_comm, htext]
    exact .last hs
  | cons m rest ih =>
    obtain ⟨hbefore, hspan, hrest⟩ := hordered
    have hm := hspans m List.mem_cons_self
    have hspans' : ∀ k ∈ rest, k.Spanned source := fun k hk => hspans k (List.mem_cons_of_mem m hk)
    have hholds' : ∀ k ∈ rest, k.kind = "template_substitution" → inner? k = k.firstNamed? :=
      fun k hk => hholds k (List.mem_cons_of_mem m hk)
    cases hkind : m.kind == "template_substitution" with
    | false =>
      rw [templatePiecesFrom, hkind, if_neg Bool.false_ne_true,
        List.filter_cons_of_neg (by simp [hkind])]
      exact ih hfirst hstart (by omega) hrest hspans' hholds'
    | true =>
      have hle : first ≤ m.label.start := Nat.le_trans hlow hbefore
      have hlast : m.label.start ≤ n.label.stop := by
        have := hrest.le
        omega
      obtain ⟨s, hs⟩ := between_of_le hfirst hm.1 hle
      have htext := textBetween_eq hs hstart hle hlast
      rw [← hn.2.2.1] at htext
      have hinner : inner? m = m.firstNamed? := hholds m List.mem_cons_self (beq_iff_eq.1 hkind)
      rw [templatePiecesFrom, hkind, if_pos rfl, List.filter_cons_of_pos (by simp [hkind]), htext]
      change Segments source inner? first _ _ (.text s :: .hole m.firstNamed? :: _)
      rw [← hinner]
      exact .cut hs (ih hm.2.1 (by omega) (Nat.le_refl _) hrest hspans' hholds')

/-- The pieces of a template are the source between its marks, cut at its substitutions. -/
theorem Node.segments_templatePieces {source : List Char} {inner? : Node → Option Node} {n : Node}
    (hspans : n.Every (Node.Spanned source)) (hquoted : n.Quoted)
    (hkind : n.kind = "template_string") (hholds : ∀ sub ∈ n.substitutions, sub.Holds inner?) :
    Segments source inner? (n.label.start + 1) (n.label.stop - 1) n.substitutions
      n.templatePieces := by
  obtain ⟨opening, hopening, closing, hclosing, ⟨hok, hos, hoe⟩, hck, hcs, hce⟩ := hquoted hkind
  obtain ⟨parts, hparts⟩ := List.getLast?_eq_some_iff.1 hclosing
  have hchildren : n.children = opening :: (parts ++ [closing]) := by
    rw [← hparts]
    exact List.eq_cons_of_mem_head? hopening
  have hn := hspans.self
  have hordered := hn.2.2.2
  rw [hchildren] at hordered
  obtain ⟨-, -, hordered⟩ := hordered
  obtain ⟨hinside, hlast⟩ := Ordered.concat hordered
  have hmem : ∀ m ∈ parts, m ∈ n.children := by
    intro m hm
    rw [hchildren]
    exact List.mem_cons_of_mem _ (List.mem_append_left _ hm)
  have hopens : opening.Spanned source :=
    (hspans.child (by rw [hchildren]; exact List.mem_cons_self)).self
  have hcloses : closing.Spanned source := (hspans.child (by rw [hchildren]; simp)).self
  have hopenKind : (opening.kind == "template_substitution") = false := by rw [hok]; decide
  have hcloseKind : (closing.kind == "template_substitution") = false := by rw [hck]; decide
  have hfirst : n.label.start + 1 ∈ charOffsets 0 source := by
    rw [← hoe]
    exact hopens.2.1
  have hend : n.label.stop - 1 ∈ charOffsets 0 source := by
    rw [← hcs]
    exact hcloses.1
  rw [hcs] at hinside
  have hsegments := segments_templatePiecesFrom hn hend hfirst (Nat.le_add_right _ 1)
    (Nat.le_of_eq hoe.symm) hinside
    (fun m hm => (hspans.child (hmem m hm)).self)
    (fun m hm hsub => hholds m (List.mem_filter.2 ⟨hmem m hm, beq_iff_eq.2 hsub⟩) (.inr hsub))
  rw [Node.substitutions, Node.templatePieces, hchildren,
    List.filter_cons_of_neg (by simp [hopenKind]), List.filter_append,
    List.filter_cons_of_neg (by simp [hcloseKind]), List.filter_nil, List.append_nil,
    templatePiecesFrom, hopenKind, if_neg Bool.false_ne_true,
    templatePiecesFrom_concat _ _ _ _ hcloseKind]
  rwa [Nat.add_sub_cancel_left] at hsegments

end RouteCensus
