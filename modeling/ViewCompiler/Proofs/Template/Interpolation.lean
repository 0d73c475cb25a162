import Mathlib.Data.List.Chain
import Mathlib.Data.List.Infix
import ViewCompiler.Proofs.Text.Cut
import ViewCompiler.Template.Interpolation

/-!
# The one way to take a text apart

An expression is marked by double braces around something that is not empty and has no brace in it. Two marked
expressions never overlap, not even where braces pile up in front of one (`prefix_of_straddle`), so there is only one
way to take a text apart into marked expressions and texts that hold none. It is the one that `interpolationPieces`
finds, and `interpolate` makes a node of each piece in turn.
-/

namespace ViewCompiler.Template

open Text (Stops)

variable {t inner after first : Text} {others : List (Text × Text)}

/-! ### Marked expressions -/

/-- What can be marked as an expression. -/
def IsInner (inner : Text) : Prop := inner ≠ [] ∧ '\x7b' ∉ inner ∧ '\x7d' ∉ inner

/-- An expression between double braces. -/
def braced (inner : Text) : Text := "\x7b\x7b" ++ inner ++ "\x7d\x7d"

/-- A text that holds no marked expression. -/
def Plain (t : Text) : Prop := ∀ inner, IsInner inner → ¬ braced inner <:+: t

theorem braced_append (inner after : Text) :
    braced inner ++ after = '\x7b' :: '\x7b' :: (inner ++ '\x7d' :: '\x7d' :: after) := by
  simp [braced]

theorem plain_nil : Plain [] := by
  intro inner _ hwithin
  simp [braced] at hwithin

theorem Plain.of_cons {c : Char} (h : Plain (c :: t)) : Plain t :=
  fun inner hinner hwithin => h inner hinner (hwithin.trans (List.suffix_cons c t).isInfix)

theorem IsInner.not_isBrace (h : IsInner inner) : ∀ c ∈ inner, (!isBrace c) = true := by
  intro c hc
  simp only [isBrace, Bool.not_eq_true', Bool.or_eq_false_iff, beq_eq_false_iff_ne]
  constructor
  · rintro rfl
    exact h.2.1 hc
  · rintro rfl
    exact h.2.2 hc

theorem marked?_eq_some_iff : marked? t = some (inner, after) ↔ IsInner inner ∧ t = braced inner ++ after := by
  constructor
  · intro h
    unfold marked? at h
    split at h
    · rename_i rest
      simp only at h
      split at h
      · rename_i c others beyond hinner hdrop
        simp only [Option.some.injEq, Prod.mk.injEq] at h
        obtain ⟨rfl, rfl⟩ := h
        have hclass : ∀ d ∈ rest.takeWhile (!isBrace ·), isBrace d = false := by
          intro d hd
          simpa using List.mem_takeWhile_imp hd
        have hrest := List.prefix_iff_eq_append.1 (List.takeWhile_prefix (l := rest) (!isBrace ·))
        rw [hdrop] at hrest
        refine ⟨⟨by simp [hinner], ?_, ?_⟩, ?_⟩
        · exact fun hmem => absurd (hclass _ hmem) (by decide)
        · exact fun hmem => absurd (hclass _ hmem) (by decide)
        · rw [braced_append, hrest]
      · cases h
    · cases h
  · rintro ⟨hinner, rfl⟩
    have hstops : Stops (!isBrace ·) ('\x7d' :: '\x7d' :: after) := Text.stops_cons.2 (by decide)
    obtain ⟨c, rest, rfl⟩ := List.exists_cons_of_ne_nil hinner.1
    rw [braced_append, marked?]
    simp only [Text.takeWhile_append_stops hinner.not_isBrace hstops, List.drop_left]

theorem marked?_eq_none_iff : marked? t = none ↔ ∀ inner, IsInner inner → ¬ braced inner <+: t := by
  rw [Option.eq_none_iff_forall_ne_some]
  constructor
  · rintro h inner hinner ⟨after, rfl⟩
    exact h (inner, after) (marked?_eq_some_iff.2 ⟨hinner, rfl⟩)
  · rintro h ⟨inner, after⟩ hsome
    obtain ⟨hinner, rfl⟩ := marked?_eq_some_iff.1 hsome
    exact h inner hinner (List.prefix_append _ _)

theorem Plain.cons {c : Char} (h : Plain t) (hnone : marked? (c :: t) = none) : Plain (c :: t) := by
  intro inner hinner hwithin
  rcases List.infix_cons_iff.1 hwithin with hstarts | hwithin
  · exact marked?_eq_none_iff.1 hnone inner hinner hstarts
  · exact h inner hinner hwithin

/-- A text that starts with a marked expression, or an empty one. -/
def Resumes (t : Text) : Prop := t = [] ∨ ∃ inner after, IsInner inner ∧ t = braced inner ++ after

/-- A marked expression that starts before another one ends before it. -/
theorem prefix_of_straddle (hfirst : first ≠ []) (ht : Resumes t) (hinner : IsInner inner)
    (h : braced inner <+: first ++ t) : braced inner <+: first := by
  obtain ⟨beyond, heq⟩ := h
  rcases List.append_eq_append_iff.1 heq with ⟨rest, rfl, -⟩ | ⟨rest, hsplit, hrest⟩
  · exact List.prefix_append _ _
  · cases rest with
    | nil => exact (List.append_nil first ▸ hsplit) ▸ List.prefix_rfl
    | cons c rest =>
        exfalso
        obtain rfl | ⟨inner', after', hinner', rfl⟩ := ht
        · cases hrest
        rw [braced_append, List.cons_append] at hrest
        obtain ⟨rfl, hbehind⟩ := List.cons.inj hrest
        obtain ⟨d, front, rfl⟩ := List.exists_cons_of_ne_nil hfirst
        rw [← List.append_nil (braced inner), braced_append, List.cons_append] at hsplit
        obtain ⟨-, hsplit⟩ := List.cons.inj hsplit
        cases front with
        | nil =>
            -- Of its two braces one would come before the other expression: then a brace follows where its inside starts.
            obtain ⟨e, inside, rfl⟩ := List.exists_cons_of_ne_nil hinner.1
            rw [List.nil_append, List.cons.injEq] at hsplit
            obtain ⟨-, rfl⟩ := hsplit
            have hbrace : e = '\x7b' := (List.cons.inj hbehind).1.symm
            exact hinner.2.1 (hbrace ▸ List.mem_cons_self)
        | cons e front =>
            -- An opening brace would stand within it.
            obtain ⟨-, hsplit⟩ := List.cons.inj hsplit
            have hmem : '\x7b' ∈ inner ++ ['\x7d', '\x7d'] := hsplit ▸ by simp
            exact hinner.2.1 (by simpa using hmem)

/-! ### Taking apart and putting together -/

/-- The text of pieces: `first` and then each expression, in braces, with the text after it. -/
def assembled (first : Text) (others : List (Text × Text)) : Text :=
  first ++ others.flatMap fun piece => braced piece.1 ++ piece.2

/-- A way to take a text apart: marked expressions, and between them texts that hold none. -/
structure TakesApart (content first : Text) (others : List (Text × Text)) : Prop where
  content_eq : content = assembled first others
  first_plain : Plain first
  inner : ∀ piece ∈ others, IsInner piece.1
  plain : ∀ piece ∈ others, Plain piece.2

theorem assembled_cons (first inner after : Text) (others : List (Text × Text)) :
    assembled first ((inner, after) :: others) = first ++ (braced inner ++ assembled after others) := by
  simp [assembled]

theorem interpolationPieces_marked (h : marked? t = some (inner, after)) : interpolationPieces t =
    ([], (inner, (interpolationPieces after).1) :: (interpolationPieces after).2) := by
  rw [interpolationPieces.eq_def]
  split
  · cases h
  · split
    · rename_i hsome
      cases hsome.symm.trans h
      rfl
    · rename_i hnone
      cases hnone.symm.trans h

theorem interpolationPieces_unmarked {c : Char} (h : marked? (c :: t) = none) :
    interpolationPieces (c :: t) = (c :: (interpolationPieces t).1, (interpolationPieces t).2) := by
  rw [interpolationPieces.eq_def]
  split
  · rename_i heq
    cases heq
  · rename_i heq
    cases heq
    split
    · rename_i hsome
      cases hsome.symm.trans h
    · rfl

theorem takesApart_pieces (content : Text) :
    TakesApart content (interpolationPieces content).1 (interpolationPieces content).2 := by
  fun_induction interpolationPieces content with
  | case1 => exact ⟨rfl, plain_nil, by simp, by simp⟩
  | case2 c rest inner after hmark _ first others heq ih =>
      rw [heq] at ih
      obtain ⟨hinner, hcontent⟩ := marked?_eq_some_iff.1 hmark
      refine ⟨?_, plain_nil, List.forall_mem_cons.2 ⟨hinner, ih.inner⟩, List.forall_mem_cons.2 ⟨ih.first_plain, ih.plain⟩⟩
      rw [assembled_cons, ← ih.content_eq, hcontent, List.nil_append]
  | case3 c rest hmark first others heq ih =>
      rw [heq] at ih
      refine ⟨congrArg (c :: ·) ih.content_eq, ?_, ih.inner, ih.plain⟩
      apply ih.first_plain.cons
      rw [marked?_eq_none_iff] at hmark ⊢
      intro inner hinner hstarts
      have hfirst : c :: first <+: c :: rest := List.cons_prefix_cons.2 ⟨rfl, ⟨_, ih.content_eq.symm⟩⟩
      exact hmark inner hinner (hstarts.trans hfirst)

/-- A text without a marked expression is passed over up to where one starts. -/
theorem interpolationPieces_append (hfirst : Plain first) (ht : Resumes t) :
    interpolationPieces (first ++ t) = (first ++ (interpolationPieces t).1, (interpolationPieces t).2) := by
  induction first with
  | nil => rfl
  | cons c rest ih =>
      have hnone : marked? (c :: rest ++ t) = none := by
        rw [marked?_eq_none_iff]
        intro inner hinner hstarts
        have hwithin := prefix_of_straddle (List.cons_ne_nil c rest) ht hinner hstarts
        exact hfirst inner hinner hwithin.isInfix
      rw [List.cons_append] at hnone ⊢
      rw [interpolationPieces_unmarked hnone, ih hfirst.of_cons, List.cons_append]

theorem TakesApart.pieces_eq {content : Text} (h : TakesApart content first others) :
    interpolationPieces content = (first, others) := by
  obtain ⟨rfl, hfirst, hinner, hplain⟩ := h
  induction others generalizing first with
  | nil =>
      have hend := interpolationPieces_append hfirst (Or.inl rfl)
      rw [interpolationPieces, List.append_nil] at hend
      simpa [assembled] using hend
  | cons piece others ih =>
      obtain ⟨inner, after⟩ := piece
      rw [List.forall_mem_cons] at hinner hplain
      have hmark : marked? (braced inner ++ assembled after others) = some (inner, assembled after others) :=
        marked?_eq_some_iff.2 ⟨hinner.1, rfl⟩
      rw [assembled_cons, interpolationPieces_append hfirst (Or.inr ⟨inner, _, hinner.1, rfl⟩),
        interpolationPieces_marked hmark, ih hplain.1 hinner.2 hplain.2, List.append_nil]

/-! ### The nodes of the pieces -/

/-- The texts and the expressions in turn, each as a node. -/
def turns (position : Option Position) (first : Text) (others : List (Text × Text)) : List Node :=
  .ofContent (.text first.quote) (some position) ::
    others.flatMap fun piece =>
      [.ofContent (.interpolation (.ofText piece.1)) (some position), .ofContent (.text piece.2.quote) (some position)]

/-- The text that comes last. -/
def lastText (first : Text) (others : List (Text × Text)) : Text := (others.map Prod.snd).getLastD first

/-- The texts and the expressions in turn, without the text at either end if that is empty. -/
def trimmed (position : Option Position) (first : Text) (others : List (Text × Text)) : List Node :=
  let front := if first = [] then (turns position first others).tail else turns position first others
  if lastText first others = [] then front.dropLast else front

def Node.isText (n : Node) : Bool :=
  match n.content with
  | .text _ => true
  | _ => false

theorem turns_cons (position : Option Position) (first inner after : Text) (others : List (Text × Text)) :
    turns position first ((inner, after) :: others) =
      textNode position first :: interpolationNode position inner :: turns position after others := rfl

theorem lastText_cons (first inner after : Text) (others : List (Text × Text)) :
    lastText first ((inner, after) :: others) = lastText after others := by
  rw [lastText, List.map_cons, List.getLastD_cons, lastText]

theorem boundaryNodes_append (position : Option Position) (first : Text) (nodes : List Node) :
    boundaryNodes position first ++ nodes = if first = [] then nodes else textNode position first :: nodes := by
  cases first <;> rfl

theorem laterNodes_cons (position : Option Position) (inner after : Text) (others : List (Text × Text)) :
    laterNodes position ((inner, after) :: others) = interpolationNode position inner ::
      if lastText after others = [] then (turns position after others).dropLast else turns position after others := by
  induction others generalizing inner after with
  | nil => cases after <;> rfl
  | cons next others ih =>
      obtain ⟨inner', after'⟩ := next
      rw [laterNodes, ih, lastText_cons, turns_cons]
      split <;> simp [turns]

theorem nodes_eq_trimmed (position : Option Position) (first : Text) (others : List (Text × Text)) :
    boundaryNodes position first ++ laterNodes position others = trimmed position first others := by
  cases others with
  | nil => cases first <;> rfl
  | cons piece others =>
      obtain ⟨inner, after⟩ := piece
      rw [boundaryNodes_append, laterNodes_cons, trimmed, turns_cons, lastText_cons]
      -- An expression stands behind the first text, so taking off the last one leaves it alone.
      split <;> split <;> simp [turns]

theorem isChain_turns (position : Option Position) (first : Text) (others : List (Text × Text)) :
    (turns position first others).IsChain fun a b => a.isText ≠ b.isText := by
  induction others generalizing first with
  | nil => exact .singleton _
  | cons piece others ih =>
      obtain ⟨inner, after⟩ := piece
      rw [turns_cons]
      refine List.isChain_cons_cons.2 ⟨Bool.false_ne_true.symm, ?_⟩
      exact List.isChain_cons_cons.2 ⟨Bool.false_ne_true, ih after⟩

theorem isChain_trimmed (position : Option Position) (first : Text) (others : List (Text × Text)) :
    (trimmed position first others).IsChain fun a b => a.isText ≠ b.isText := by
  have hturns := isChain_turns position first others
  have hfront : (if first = [] then (turns position first others).tail else turns position first others).IsChain
      fun a b => a.isText ≠ b.isText := by
    split
    · exact hturns.tail
    · exact hturns
  rw [trimmed]
  split
  · exact hfront.dropLast
  · exact hfront

/-! ### What the nodes are -/

/-- A node that a text is cut into. -/
def IsCut (position : Option Position) (content : Text) (node : Node) : Prop :=
  (∃ inner, node = interpolationNode position inner) ∨ ∃ piece, piece <:+: content ∧ node = textNode position piece

theorem interpolationPieces_infix (t : Text) : (interpolationPieces t).1 <+: t ∧
    ∀ piece ∈ (interpolationPieces t).2, piece.2 <:+: t := by
  have hcontent := (takesApart_pieces t).content_eq
  refine ⟨⟨_, hcontent.symm⟩, fun piece hpiece => ?_⟩
  have hbehind : braced piece.1 ++ piece.2 <:+: (interpolationPieces t).2.flatMap fun piece => braced piece.1 ++ piece.2 := by
    rw [List.flatMap_def]
    exact List.infix_of_mem_flatten (List.mem_map.2 ⟨piece, hpiece, rfl⟩)
  have hwhole := hbehind.trans (List.suffix_append (interpolationPieces t).1 _).isInfix
  rw [← assembled, ← hcontent] at hwhole
  exact (List.suffix_append _ _).isInfix.trans hwhole

theorem mem_turns_of_mem_trimmed {position : Option Position} {node : Node} (h : node ∈ trimmed position first others) :
    node ∈ turns position first others := by
  have hfront : node ∈ (if first = [] then (turns position first others).tail else turns position first others) →
      node ∈ turns position first others := by
    split
    · exact List.mem_of_mem_tail
    · exact id
  rw [trimmed] at h
  split at h
  · exact hfront (List.mem_of_mem_dropLast h)
  · exact hfront h

theorem isCut_of_mem_interpolate {position : Option Position} {content : Text} {node : Node}
    (h : node ∈ interpolate position content) : IsCut position content node := by
  obtain ⟨hfirst, hothers⟩ := interpolationPieces_infix content
  have hnodes : interpolate position content = trimmed position _ _ := nodes_eq_trimmed position _ _
  rw [hnodes] at h
  rcases List.mem_cons.1 (mem_turns_of_mem_trimmed h) with rfl | hlater
  · exact .inr ⟨_, hfirst.isInfix, rfl⟩
  · obtain ⟨piece, hpiece, hnode⟩ := List.mem_flatMap.1 hlater
    rcases List.mem_pair.1 hnode with rfl | rfl
    · exact .inl ⟨piece.1, rfl⟩
    · exact .inr ⟨piece.2, hothers piece hpiece, rfl⟩

/-- There is exactly one way to take a text apart, and the nodes of the text are its texts and expressions in turn,
without an empty text at either end. -/
theorem interpolate_takes_apart (position : Option Position) (content : Text) :
    (∃! pieces : Text × List (Text × Text), TakesApart content pieces.1 pieces.2) ∧
      (∀ first others, TakesApart content first others → interpolate position content = trimmed position first others) ∧
      ((interpolate position content).IsChain fun a b => a.isText ≠ b.isText) ∧ interpolate position [] = [] := by
  have hnodes : ∀ first others, TakesApart content first others →
      interpolate position content = trimmed position first others := by
    intro first others h
    rw [interpolate, h.pieces_eq]
    exact nodes_eq_trimmed position first others
  refine ⟨⟨interpolationPieces content, takesApart_pieces content, ?_⟩, hnodes, ?_, ?_⟩
  · rintro ⟨first, others⟩ h
    exact h.pieces_eq.symm
  · rw [hnodes _ _ (takesApart_pieces content)]
    exact isChain_trimmed position _ _
  · rw [interpolate, interpolationPieces]
    rfl

theorem interpolate_takes_apart_piled :
    TakesApart "\x7b\x7b\x7b a \x7d\x7d\x7d\x7b\x7b \x7d\x7d".toList "\x7b".toList
        [(" a ".toList, "\x7d".toList), (" ".toList, [])] ∧
      interpolate none "\x7b\x7b\x7b a \x7d\x7d\x7d\x7b\x7b \x7d\x7d".toList =
        [.ofContent (.text "'\x7b'".toList) (some none), .ofContent (.interpolation (.plain (.property "a".toList))) (some none),
         .ofContent (.text "'\x7d'".toList) (some none), .ofContent (.interpolation (.plain (.property []))) (some none)] := by
  have hpieces : interpolationPieces "\x7b\x7b\x7b a \x7d\x7d\x7d\x7b\x7b \x7d\x7d".toList =
      ("\x7b".toList, [(" a ".toList, "\x7d".toList), (" ".toList, [])]) := by decide +kernel
  have happart := takesApart_pieces "\x7b\x7b\x7b a \x7d\x7d\x7d\x7b\x7b \x7d\x7d".toList
  rw [hpieces] at happart
  refine ⟨happart, ((interpolate_takes_apart none _).2.1 _ _ happart).trans ?_⟩
  decide +kernel

end ViewCompiler.Template
