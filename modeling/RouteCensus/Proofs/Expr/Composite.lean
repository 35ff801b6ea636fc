import Mathlib.Data.List.Forall2
import RouteCensus.Proofs.Expr.Template

/-! # Composite URLs

The URL text of an expression, said from its leaves: the value of every string,
the source text of every template outside its substitutions, and a placeholder
for everything else, numbered over the whole URL.
-/

namespace RouteCensus

/-- What a leaf contributes to a URL. -/
inductive Contributes (source : List Char) (inner? : Node → Option Node) :
    Node → List UrlPiece → Prop where
  | string {n : Node} (h : n.kind = "string") : Contributes source inner? n [.text n.stringChars]
  | template {n : Node} {pieces : List UrlPiece} (h : n.kind = "template_string")
    (hpieces : Segments source inner? (n.label.start + 1) (n.label.stop - 1) n.substitutions pieces) :
    Contributes source inner? n pieces
  | other {n : Node} (h : n.isTextual = false) : Contributes source inner? n [.hole (some n)]

def UrlPiece.isHole : UrlPiece → Bool
  | .text _ => false
  | .hole _ => true

/-- The pieces, each with the number of embedded expressions up to it. -/
def numbered (pieces : List UrlPiece) : List (Nat × UrlPiece) :=
  pieces.mapIdx fun i piece => ((pieces.take (i + 1)).countP UrlPiece.isHole, piece)

def numberedPlaceholder (number : Nat) : List Char :=
  '{' :: "param".toList ++ (toString number).toList ++ ['}']

/-- The text of a numbered piece. -/
inductive Filled (inner? : Node → Option Node) : Nat × UrlPiece → List Char → Prop where
  | text {i : Nat} {s : List Char} : Filled inner? (i, .text s) s
  | name {i : Nat} {e x : Node} (h : Unwraps inner? e x) (hx : x.kind = "identifier") :
    Filled inner? (i, .hole (some e)) ('{' :: x.text.toList ++ ['}'])
  | number {i : Nat} {e x : Node} (h : Unwraps inner? e x) (hx : x.kind ≠ "identifier") :
    Filled inner? (i, .hole (some e)) (numberedPlaceholder i)
  | empty {i : Nat} : Filled inner? (i, .hole none) (numberedPlaceholder i)

/-- The URL text of an expression, which has none if no leaf is a string or a template. -/
inductive UrlOf (source : List Char) (inner? : Node → Option Node) (n : Node) :
    Option String → Prop where
  | some {leaves : List Node} {pieces : List (List UrlPiece)} {texts : List (List Char)}
    (hleaves : Leaves inner? n leaves) (htextual : ∃ e ∈ leaves, e.isTextual = true)
    (hpieces : List.Forall₂ (Contributes source inner?) leaves pieces)
    (htexts : List.Forall₂ (Filled inner?) (numbered pieces.flatten) texts) :
    UrlOf source inner? n (some (String.ofList texts.flatten))
  | none {leaves : List Node} (hleaves : Leaves inner? n leaves)
    (h : ∀ e ∈ leaves, e.isTextual = false) :
    UrlOf source inner? n none

theorem Segments.mem_hole {source : List Char} {inner? : Node → Option Node} {first last : Nat}
    {subs : List Node} {pieces : List UrlPiece} (h : Segments source inner? first last subs pieces)
    {expr : Option Node} (hmem : .hole expr ∈ pieces) : ∃ sub ∈ subs, expr = inner? sub := by
  induction h with
  | last h =>
    rw [List.mem_singleton] at hmem
    cases hmem
  | cut h _ ih =>
    simp only [List.mem_cons, reduceCtorEq, UrlPiece.hole.injEq, false_or] at hmem
    rcases hmem with rfl | hmem
    · exact ⟨_, List.mem_cons_self, rfl⟩
    · obtain ⟨sub, hsub, rfl⟩ := ih hmem
      exact ⟨sub, List.mem_cons_of_mem _ hsub, rfl⟩

/-- What is looked at in an expression that is embedded in a leaf is read of the leaf. -/
theorem Contributes.reads_hole {source : List Char} {n e m : Node} {pieces : List UrlPiece}
    (h : Contributes source Node.firstNamed? n pieces) (hn : n.unwrap = n)
    (he : .hole (some e) ∈ pieces) (hm : e.Passes m) : n.Reads m := by
  cases h with
  | string h =>
    rw [List.mem_singleton] at he
    cases he
  | template h hpieces =>
    obtain ⟨sub, hsub, hinner⟩ := hpieces.mem_hole he
    exact .embedded (by rw [hn]; exact h) (by rw [hn]; exact hsub) hinner.symm hm
  | other h =>
    rw [List.mem_singleton] at he
    cases he
    exact .pass hm

namespace Node

/-- A tree as a parser gives it for a source: spans that fit, marks around templates and operands on
both sides of sums. -/
structure Fits (source : List Char) (n : Node) : Prop where
  spans : n.Every (Spanned source)
  quoted : n.Every Quoted
  operands : n.Every HasOperands

theorem holds_firstNamed? (n : Node) : n.Holds firstNamed? :=
  fun _ => rfl

theorem contributes_operandPieces {source : List Char} {inner? : Node → Option Node} {n : Node}
    (hspans : n.Every (Spanned source)) (hquoted : n.Quoted)
    (hholds : n.kind = "template_string" → ∀ sub ∈ n.substitutions, sub.Holds inner?) :
    Contributes source inner? n n.operandPieces := by
  rw [operandPieces]
  split
  · next h => exact .string (beq_iff_eq.1 h)
  · next hstring =>
    split
    · next h =>
      have hkind := beq_iff_eq.1 h
      exact .template hkind (segments_templatePieces hspans hquoted hkind (hholds hkind))
    · next htemplate => exact .other (by simp only [isTextual, hstring, htemplate, Bool.or_self])

theorem placeholder_filled {inner? : Node → Option Node} (i : Nat) {expr : Option Node}
    (h : ∀ e, expr = some e → ∀ m, e.Passes m → m.Holds inner?) :
    Filled inner? (i, .hole expr) (placeholder i expr) := by
  have hnumber : numberedPlaceholder i = '{' :: ("param".toList ++ Nat.toDigits 10 i) ++ ['}'] := by
    simp [numberedPlaceholder, Nat.repr]
  cases expr with
  | none =>
    have hplaceholder : placeholder i none = numberedPlaceholder i := hnumber.symm
    rw [hplaceholder]
    exact .empty
  | some e =>
    have hunwraps := unwraps_unwrap (h e rfl)
    by_cases hname : e.unwrap.kind = "identifier"
    · have hplaceholder : placeholder i (some e) = '{' :: e.unwrap.text.toList ++ ['}'] := by
        simp [placeholder, hname]
      rw [hplaceholder]
      exact .name hunwraps hname
    · have hplaceholder : placeholder i (some e) = numberedPlaceholder i := by
        simp [placeholder, hname, hnumber]
      rw [hplaceholder]
      exact .number hunwraps hname

/-- The running count numbers every embedded expression by those up to it. -/
theorem fillPieces_filled {inner? : Node → Option Node} (count : Nat) {pieces : List UrlPiece}
    (h : ∀ e, .hole (some e) ∈ pieces → ∀ m, e.Passes m → m.Holds inner?) :
    ∃ texts, List.Forall₂ (Filled inner?)
        (pieces.mapIdx fun i piece =>
          (count + (pieces.take (i + 1)).countP UrlPiece.isHole, piece)) texts ∧
      fillPieces count pieces = texts.flatten := by
  induction pieces generalizing count with
  | nil => exact ⟨[], .nil, rfl⟩
  | cons piece rest ih =>
    have hrest : ∀ e, .hole (some e) ∈ rest → ∀ m, e.Passes m → m.Holds inner? :=
      fun e he => h e (List.mem_cons_of_mem _ he)
    cases piece with
    | text s =>
      obtain ⟨texts, htexts, hfill⟩ := ih count hrest
      refine ⟨s :: texts, ?_, by rw [fillPieces, hfill, List.flatten_cons]⟩
      rw [List.mapIdx_cons]
      exact .cons .text htexts
    | hole expr =>
      obtain ⟨texts, htexts, hfill⟩ := ih (count + 1) hrest
      refine ⟨placeholder (count + 1) expr :: texts, ?_,
        by rw [fillPieces, hfill, List.flatten_cons]⟩
      have hstep : ∀ i,
          count + ((UrlPiece.hole expr :: rest).take (i + 1 + 1)).countP UrlPiece.isHole =
            count + 1 + (rest.take (i + 1)).countP UrlPiece.isHole := by
        intro i
        rw [List.take_succ_cons, List.countP_cons_of_pos rfl]
        omega
      rw [List.mapIdx_cons]
      simp only [hstep]
      exact .cons (placeholder_filled (count + 1) fun e he => h e (he ▸ List.mem_cons_self)) htexts

theorem isSum_of_textual {n : Node} (h : n.isTextual = true) : n.isSum = false := by
  rw [isTextual, Bool.or_eq_true, beq_iff_eq, beq_iff_eq] at h
  rw [isSum, Bool.and_eq_false_iff]
  refine .inl (beq_eq_false_iff_ne.2 ?_)
  rcases h with h | h <;> rw [h] <;> decide

/-- Only the leaves matter for the URL of an expression that is no identifier. -/
theorem url?_eq_summands {n : Node} (htop : n.unwrap.kind ≠ "identifier")
    (resolve : String → Option Node) :
    n.url? resolve = if n.summands.any isTextual then
      some (String.ofList (fillPieces 0 (n.summands.flatMap operandPieces))) else none := by
  have hurl : n.url? resolve = n.unwrap.literalUrl? := by
    simp only [url?, beq_iff_eq, if_neg htop]
  rw [hurl, literalUrl?, urlPieces?, operands?_unwrap, summands]
  by_cases htextual : n.unwrap.isTextual = true
  · rw [operands?_of_not_sum (isSum_of_textual htextual)]
    simp [htextual]
  · cases n.operands? with
    | none => simp [htextual]
    | some operands =>
      by_cases hany : operands.any isTextual = true
      · simp [htextual, hany]
      · simp [htextual, hany]

theorem urlOf_url? {source : List Char} {inner? : Node → Option Node} {n : Node} (h : n.Fits source)
    (hholds : ∀ m, n.Reads m → m.Holds inner?) (htop : n.unwrap.kind ≠ "identifier")
    (resolve : String → Option Node) :
    UrlOf source inner? n (n.url? resolve) := by
  have hleaves := leaves_summands hholds h.operands
  have hsummands : Leaves firstNamed? n n.summands :=
    leaves_summands (fun m _ => m.holds_firstNamed?) h.operands
  have hspans := hsummands.every h.spans
  have hquoted := hsummands.every h.quoted
  rw [url?_eq_summands htop]
  split
  · next hany =>
    have hpieces : ∀ e ∈ n.summands, Contributes source inner? e e.operandPieces := by
      intro e he
      have hself := hsummands.unwrap_eq he
      refine contributes_operandPieces (hspans e he) (hquoted e he).self fun hkind sub hsub => ?_
      rw [← hself] at hkind hsub
      exact hholds sub (hsummands.reads he (.substitution hkind hsub))
    have hholes : ∀ x, .hole (some x) ∈ n.summands.flatMap operandPieces →
        ∀ m, x.Passes m → m.Holds inner? := by
      intro x hx m hm
      obtain ⟨e, he, hxe⟩ := List.mem_flatMap.1 hx
      have hcontributes : Contributes source firstNamed? e e.operandPieces :=
        contributes_operandPieces (hspans e he) (hquoted e he).self
          fun _ sub _ => sub.holds_firstNamed?
      exact hholds m (hsummands.reads he (hcontributes.reads_hole (hsummands.unwrap_eq he) hxe hm))
    obtain ⟨texts, htexts, hfill⟩ := fillPieces_filled 0 hholes
    rw [hfill]
    refine .some hleaves (List.any_eq_true.1 hany)
      (List.forall₂_map_right_iff.2 (List.forall₂_same.2 hpieces)) ?_
    simpa only [numbered, Nat.zero_add, List.flatMap_def] using htexts
  · next hany =>
    refine .none hleaves fun e he => ?_
    cases htextual : e.isTextual with
    | false => rfl
    | true => exact absurd (List.any_eq_true.2 ⟨e, he, htextual⟩) hany

end Node

/-- A single leaf is the expression itself. -/
theorem Leaves.unwraps_of_singleton {inner? : Node → Option Node} {n e : Node}
    (h : Leaves inner? n [e]) :
    Unwraps inner? n e := by
  generalize hleaves : [e] = leaves at h
  cases h with
  | leaf h he =>
    obtain rfl := List.singleton_inj.1 hleaves
    exact h
  | sum _ _ _ _ hlefts hrights =>
    have hl := List.length_pos_iff.2 hlefts.ne_nil
    have hr := List.length_pos_iff.2 hrights.ne_nil
    have hlength := congrArg List.length hleaves
    rw [List.length_append, List.length_singleton] at hlength
    omega

theorem Leaves.not_identifier {n m : Node} {leaves : List Node}
    (hn : Leaves Node.firstNamed? n leaves) (hm : Leaves Node.firstNamed? m leaves)
    (htop : n.unwrap.kind ≠ "identifier") : m.unwrap.kind ≠ "identifier" := by
  intro hname
  have hsum : m.unwrap.isSum = false := by rw [Node.isSum, hname]; rfl
  have hsingle : leaves = [m.unwrap] := by
    rw [hm.eq_summands, Node.summands, Node.operands?_of_not_sum hsum]
    rfl
  rw [hsingle] at hn
  rw [hn.unwraps_of_singleton.eq_unwrap] at hname
  exact htop hname

/-- Expressions with the same leaves, in whatever brackets, wrappers and order of sums, have the
same URL. -/
theorem Leaves.url?_eq {n m : Node} {leaves : List Node} (hn : Leaves Node.firstNamed? n leaves)
    (hm : Leaves Node.firstNamed? m leaves) (htop : n.unwrap.kind ≠ "identifier")
    (resolve resolve' : String → Option Node) : m.url? resolve' = n.url? resolve := by
  have htop' := hn.not_identifier hm htop
  rw [Node.url?_eq_summands htop, Node.url?_eq_summands htop', ← hn.eq_summands, ← hm.eq_summands]

section Unique

variable {source : List Char} {inner? : Node → Option Node}

theorem Contributes.unique {n : Node} {pieces pieces' : List UrlPiece}
    (h : Contributes source inner? n pieces)
    (h' : Contributes source inner? n pieces') : pieces = pieces' := by
  cases h with
  | string h =>
    cases h' with
    | string _ => rfl
    | template h' _ => exact absurd (h.symm.trans h') (by decide)
    | other h' => simp [Node.isTextual, h] at h'
  | template h hpieces =>
    cases h' with
    | string h' => exact absurd (h.symm.trans h') (by decide)
    | template _ hpieces' => exact hpieces.unique hpieces'
    | other h' => simp [Node.isTextual, h] at h'
  | other h =>
    cases h' with
    | string h' => simp [Node.isTextual, h'] at h
    | template h' _ => simp [Node.isTextual, h'] at h
    | other _ => rfl

theorem Filled.unique {piece : Nat × UrlPiece} {s t : List Char} (hs : Filled inner? piece s)
    (ht : Filled inner? piece t) : s = t := by
  cases hs with
  | text => cases ht; rfl
  | empty => cases ht; rfl
  | name h hx =>
    cases ht with
    | name h' _ => rw [h.unique h']
    | number h' hx' => exact absurd (h.unique h' ▸ hx) hx'
  | number h hx =>
    cases ht with
    | name h' hx' => exact absurd (h'.unique h ▸ hx') hx
    | number _ _ => rfl

/-- The leaves, and with them the text, are determined by the expression. -/
theorem UrlOf.unique {n : Node} {url url' : Option String} (h : UrlOf source inner? n url)
    (h' : UrlOf source inner? n url') : url = url' := by
  cases h with
  | some hleaves htextual hpieces htexts =>
    cases h' with
    | some hleaves' _ hpieces' htexts' =>
      obtain rfl := hleaves.unique hleaves'
      have hcontributes : Relator.RightUnique (Contributes source inner?) :=
        fun _ _ _ h h' => h.unique h'
      have hfilled : Relator.RightUnique (Filled inner?) := fun _ _ _ h h' => h.unique h'
      obtain rfl := List.right_unique_forall₂' hcontributes hpieces hpieces'
      obtain rfl := List.right_unique_forall₂' hfilled htexts htexts'
      rfl
    | none hleaves' hno =>
      obtain rfl := hleaves.unique hleaves'
      obtain ⟨e, he, htextual⟩ := htextual
      exact absurd ((hno e he).symm.trans htextual) Bool.false_ne_true
  | none hleaves hno =>
    cases h' with
    | some hleaves' htextual' _ _ =>
      obtain rfl := hleaves.unique hleaves'
      obtain ⟨e, he, htextual⟩ := htextual'
      exact absurd ((hno e he).symm.trans htextual) Bool.false_ne_true
    | none _ _ => rfl

end Unique

namespace Node

def isCommentKind (kind : String) : Bool :=
  ["comment", "html_comment"].contains kind

/-- The expression that a wrapper or a substitution holds: its first named node but comments. -/
def held? (n : Node) : Option Node :=
  n.namedChildren.find? fun child => !isCommentKind child.kind

/-- No comment stands before the expression that a wrapper or a substitution holds. -/
def Uncommented (n : Node) : Prop :=
  isWrapperKind n.kind = true ∨ n.kind = "template_substitution" →
    n.firstNamed?.all fun child => !isCommentKind child.kind

instance (n : Node) : Decidable n.Uncommented :=
  inferInstanceAs (Decidable (_ → _))

theorem holds_held? {n : Node} (h : n.Uncommented) : n.Holds held? := by
  intro hkind
  have hfirst := h hkind
  rw [firstNamed?] at hfirst
  rw [held?, firstNamed?]
  cases hnamed : n.namedChildren with
  | nil => rfl
  | cons child rest =>
    rw [hnamed] at hfirst
    exact List.find?_cons_of_pos hfirst

/-- The expression is a string or a template, or its sums do not go deeper than the limit. -/
def Shallow (limit : Nat) (n : Node) : Prop :=
  n.unwrap.isTextual = true ∨ n.sumDepth ≤ limit

instance (limit : Nat) (n : Node) : Decidable (n.Shallow limit) :=
  inferInstanceAs (Decidable (_ ∨ _))

theorem urlWithin_eq {n : Node} (htop : n.unwrap.kind ≠ "identifier") (limit : Nat)
    (resolve : String → Option Node) :
    n.urlWithin limit resolve =
      if n.Shallow limit then .ok (n.url? resolve) else .error .tooDeep := by
  have hsource : n.urlSource? resolve = some n.unwrap := if_neg (by simpa using htop)
  have hdeep : n.hasDeepUrl limit resolve = true ↔ ¬ n.Shallow limit := by
    rw [hasDeepUrl, hsource, Option.any_some, sumDepth_unwrap]
    simp [Shallow]
  by_cases hshallow : n.Shallow limit
  · rw [urlWithin, if_neg (mt hdeep.1 (not_not_intro hshallow)), if_pos hshallow]
  · rw [urlWithin, if_pos (hdeep.2 hshallow), if_neg hshallow]

theorem urlWithin_eq_ok_iff {source : List Char} {inner? : Node → Option Node} {n : Node}
    (h : n.Fits source) (hholds : ∀ m, n.Reads m → m.Holds inner?)
    (htop : n.unwrap.kind ≠ "identifier") (limit : Nat) (resolve : String → Option Node)
    (url : Option String) :
    n.urlWithin limit resolve = .ok url ↔ n.Shallow limit ∧ UrlOf source inner? n url := by
  have hurl := urlOf_url? h hholds htop resolve
  rw [urlWithin_eq htop]
  by_cases hshallow : n.Shallow limit
  · rw [if_pos hshallow, Except.ok.injEq, and_iff_right hshallow]
    exact ⟨fun heq => heq ▸ hurl, fun hother => hurl.unique hother⟩
  · rw [if_neg hshallow]
    exact iff_of_false (fun heq => nomatch heq) fun hboth => hshallow hboth.1

/-- Reading the URL of an expression that is no identifier breaks off exactly if a sum goes too deep.
Otherwise the URL is the one its leaves give, when the first named node of a wrapper or a substitution
is taken for what it holds.  It is the one of the expressions that stand there if no comment comes
before any of them, and it depends on the leaves only.  No sum goes too deep that has at most as many
leaves as calls can be nested. -/
theorem urlWithin_iff_urlOf {source : List Char} {n : Node} (h : n.Fits source)
    (htop : n.unwrap.kind ≠ "identifier") (limit : Nat) (resolve : String → Option Node) :
    (n.urlWithin limit resolve = .error .tooDeep ↔ ¬ n.Shallow limit) ∧
    (∀ url, n.urlWithin limit resolve = .ok url ↔
      n.Shallow limit ∧ UrlOf source firstNamed? n url) ∧
    ((∀ m, n.Reads m → m.Uncommented) → ∀ url, n.urlWithin limit resolve = .ok url ↔
      n.Shallow limit ∧ UrlOf source held? n url) ∧
    ∀ (m : Node) (leaves : List Node) (resolve' : String → Option Node),
      Leaves firstNamed? n leaves → Leaves firstNamed? m leaves →
      (n.Shallow limit → m.Shallow limit →
        m.urlWithin limit resolve' = n.urlWithin limit resolve) ∧
      (leaves.length ≤ limit → n.Shallow limit ∧ m.Shallow limit) := by
  refine ⟨?_, ?_, ?_, ?_⟩
  · rw [urlWithin_eq htop]
    split
    · next hshallow => exact iff_of_false (fun heq => nomatch heq) (not_not_intro hshallow)
    · next hshallow => exact iff_of_true rfl hshallow
  · exact urlWithin_eq_ok_iff h (fun m _ => m.holds_firstNamed?) htop limit resolve
  · intro hclear
    exact urlWithin_eq_ok_iff h (fun m hm => holds_held? (hclear m hm)) htop limit resolve
  · intro m leaves resolve' hn hm
    refine ⟨fun hshallow hshallow' => ?_, fun hlength => ?_⟩
    · rw [urlWithin_eq htop, urlWithin_eq (hn.not_identifier hm htop), if_pos hshallow,
        if_pos hshallow', hn.url?_eq hm htop resolve resolve']
    · exact ⟨.inr (hn.sumDepth_le.trans hlength), .inr (hm.sumDepth_le.trans hlength)⟩

/-- A node over a stretch of the source. -/
def spanning (source : List Char) (kind : String) (named : Bool) (field : Option String)
    (start stop : Nat) (children : List Node) : Node :=
  .mk { kind := kind, named := named, field := field, start := start, stop := stop,
        bytes := ((Text.Utf8.encode source).take stop).drop start } children

def sumSource : List Char := "`/é/$\x7bid\x7d/` + (a.b)".toList

/-- A template with a substitution, and a member of an object in brackets. -/
def templateSum : Node :=
  spanning sumSource "binary_expression" true none 0 20 [
    spanning sumSource "template_string" true (some "left") 0 12 [
      spanning sumSource "`" false none 0 1 [],
      spanning sumSource "string_fragment" true none 1 5 [],
      spanning sumSource "template_substitution" true none 5 10 [
        spanning sumSource "$\x7b" false none 5 7 [],
        spanning sumSource "identifier" true none 7 9 [],
        spanning sumSource "\x7d" false none 9 10 []],
      spanning sumSource "string_fragment" true none 10 11 [],
      spanning sumSource "`" false none 11 12 []],
    spanning sumSource "+" false (some "operator") 13 14 [],
    spanning sumSource "parenthesized_expression" true (some "right") 15 20 [
      spanning sumSource "(" false none 15 16 [],
      spanning sumSource "member_expression" true none 16 19 [],
      spanning sumSource ")" false none 19 20 []]]

/-- Two nested calls are enough for a sum of two leaves, and one is not. -/
theorem urlWithin_templateSum :
    templateSum.urlWithin 1 (fun _ => none) = .error .tooDeep ∧
      templateSum.urlWithin 2 (fun _ => none) = .ok (some "/é/\x7bid\x7d/\x7bparam2\x7d") ∧
      UrlOf sumSource firstNamed? templateSum (some "/é/\x7bid\x7d/\x7bparam2\x7d") ∧
      UrlOf sumSource held? templateSum (some "/é/\x7bid\x7d/\x7bparam2\x7d") := by
  have hfits : templateSum.Fits sumSource :=
    ⟨by decide +kernel, by decide +kernel, by decide +kernel⟩
  have hclear : templateSum.Every Uncommented := by decide +kernel
  have hurl : templateSum.urlWithin 2 (fun _ => none) =
      .ok (some "/é/\x7bid\x7d/\x7bparam2\x7d") := by
    have hshallow : templateSum.hasDeepUrl 2 (fun _ => none) = false := by decide +kernel
    rw [urlWithin, if_neg (Bool.eq_false_iff.1 hshallow)]
    exact congrArg Except.ok (by decide +kernel)
  obtain ⟨hdeep, -⟩ := urlWithin_iff_urlOf hfits (by decide +kernel) 1 fun _ => none
  obtain ⟨-, hfirst, hheld, -⟩ := urlWithin_iff_urlOf hfits (by decide +kernel) 2 fun _ => none
  exact ⟨hdeep.2 (by decide +kernel), hurl, ((hfirst _).1 hurl).2,
    ((hheld (fun m hm => (hclear.reads hm).self) _).1 hurl).2⟩

def commentSource : List Char := "`$\x7b/*c*/a\x7d`".toList

def embeddedName : Node :=
  spanning commentSource "identifier" true none 8 9 []

def commentedSubstitution : Node :=
  spanning commentSource "template_substitution" true none 1 10 [
    spanning commentSource "$\x7b" false none 1 3 [],
    spanning commentSource "comment" true none 3 8 [],
    embeddedName,
    spanning commentSource "\x7d" false none 9 10 []]

/-- A template whose substitution begins with a comment. -/
def commentedTemplate : Node :=
  spanning commentSource "template_string" true none 0 11 [
    spanning commentSource "`" false none 0 1 [],
    commentedSubstitution,
    spanning commentSource "`" false none 10 11 []]

/-- A comment before an embedded name is taken for the embedded expression, so the name is lost. -/
theorem urlWithin_commentedTemplate :
    commentedTemplate.Fits commentSource ∧
      (∀ limit, commentedTemplate.urlWithin limit (fun _ => none) = .ok (some "\x7bparam1\x7d")) ∧
      UrlOf commentSource held? commentedTemplate (some "\x7ba\x7d") := by
  have hleaves : Leaves held? commentedTemplate [commentedTemplate] :=
    .leaf (.stop (.inl (by decide +kernel))) (by decide +kernel)
  have hopening : Between commentSource 1 1 [] := ⟨['`'], commentSource.drop 1, rfl, rfl, rfl⟩
  have hclosing : Between commentSource 10 10 [] := ⟨commentSource.take 10, ['`'], rfl, rfl, rfl⟩
  have hcontributes : Contributes commentSource held? commentedTemplate
      [.text [], .hole (some embeddedName), .text []] :=
    .template rfl (.cut hopening (.last hclosing))
  have hname : Filled held? (1, .hole (some embeddedName)) "\x7ba\x7d".toList :=
    .name (.stop (.inl (by decide +kernel))) rfl
  have hurl : commentedTemplate.url? (fun _ => none) = some "\x7bparam1\x7d" := by decide +kernel
  refine ⟨⟨by decide +kernel, by decide +kernel, by decide +kernel⟩, fun limit => ?_, ?_⟩
  · rw [urlWithin_eq (by decide +kernel), if_pos (.inl (by decide +kernel)), hurl]
  exact .some hleaves ⟨_, List.mem_singleton.2 rfl, by decide +kernel⟩ (.cons hcontributes .nil)
    (.cons .text (.cons hname (.cons .text .nil)))

end Node

end RouteCensus
