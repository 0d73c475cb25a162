import ViewCompiler.Proofs.Template.Condition
import ViewCompiler.Proofs.Template.WellFormed

/-!
# Loops as they are written

The definition of a loop is put together again from the words that its attributes are, and then cut at the first
semicolon and at the first word `of`. That word is found where it was written, although a name or the items may be
spelled alike: the words in front of it are names with a parenthesis or a comma (`splitAtOf?_join`), and only a bare
item could be taken for it.
-/

namespace ViewCompiler.Template

open Markup (Attribute)
open Text (IsWord Stops join_cons join_singleton)

variable {name item source path w s t : Text} {index key : Option Text} {front back rest : List Text}

/-- Parts of a loop that can be written down. -/
structure WritableLoop (item : Text) (index : Option Text) (source : Text) (key : Option Text) : Prop where
  item_name : IsIdentifier item
  index_name : ∀ name ∈ index, IsIdentifier name
  /-- Without an index there are no parentheses to tell the item from the word behind it. -/
  bare_item : index = none → item ≠ "of".toList
  source_ne_nil : source ≠ []
  source_chars : ∀ c ∈ source, Text.isBlank c = false ∧ c ≠ ';'
  key_path : ∀ path ∈ key, IsKeyPath path

/-- The variables of a loop: the item, or the item and the index in parentheses. -/
def writtenNames (item : Text) : Option Text → Text
  | none => item
  | some name => "(" ++ item ++ ", " ++ name ++ ")"

/-- The key of a loop, if there is one. -/
def writtenKey (key : Option Text) : Text := key.elim [] fun path => "; key: " ++ path

def writtenLoop (item : Text) (index : Option Text) (source : Text) (key : Option Text) : Text :=
  writtenNames item index ++ " of " ++ source ++ writtenKey key

/-- The words of a text as attributes without values. -/
def wordAttributes (t : Text) : List Attribute := t.words.map fun word => ⟨word, none⟩

/-! ### Names -/

theorem isBlank_of_isNamePart {c : Char} (h : isNamePart c = true) : Text.isBlank c = false := by
  rw [isNamePart, Bool.or_eq_true, beq_iff_eq] at h
  rcases h with hword | rfl
  · exact Text.isBlank_of_isWordChar hword
  · decide

theorem IsIdentifier.isNamePart (h : IsIdentifier name) : ∀ c ∈ name, isNamePart c = true := by
  obtain ⟨c, rest, rfl, hfirst, hrest⟩ := h
  simp only [Template.isNamePart, Bool.or_eq_true, beq_iff_eq]
  refine List.forall_mem_cons.2 ⟨?_, hrest⟩
  rcases hfirst with hletter | rfl | rfl
  · exact Or.inl (Text.isWordChar_of_isAlpha hletter)
  · exact Or.inl (by decide)
  · exact Or.inr rfl

theorem IsIdentifier.notMem (h : IsIdentifier name) {c : Char} (hc : Template.isNamePart c = false) : c ∉ name := by
  intro hmem
  rw [h.isNamePart c hmem] at hc
  cases hc

theorem IsIdentifier.isWord (h : IsIdentifier name) : IsWord name := by
  refine ⟨?_, fun c hc => isBlank_of_isNamePart (h.isNamePart c hc)⟩
  obtain ⟨c, rest, rfl, -⟩ := h
  exact List.cons_ne_nil c rest

theorem IsIdentifier.checkName_eq (h : IsIdentifier name) : checkName name = .ok () := by
  obtain ⟨c, rest, rfl, hfirst, hrest⟩ := h
  have hname : isVariableName (c :: rest) = true := by
    simp only [isVariableName, isNameStart, Template.isNamePart, Bool.and_eq_true, Bool.or_eq_true, beq_iff_eq,
      List.all_eq_true, or_assoc]
    exact ⟨hfirst, hrest⟩
  rw [checkName, if_pos hname]

/-! ### The word between the names and the items -/

theorem dropOf?_word (hw : ∀ c ∈ w, Text.isBlank c = false) (t : Text) :
    dropOf? (w ++ ' ' :: t) = if w = "of".toList then some (t.dropWhile Text.isBlank) else none := by
  split
  · rename_i hof
    subst hof
    rfl
  · rename_i hof
    unfold dropOf?
    split
    · rename_i c rest heq
      have hc : Text.isBlank c = false := by
        match w with
        | [] => cases heq
        | [a] => cases heq
        | [a, b] =>
            cases heq
            exact absurd rfl hof
        | a :: b :: d :: others =>
            cases heq
            exact hw c (by simp)
      rw [hc]
      rfl
    · rfl

theorem splitAtInnerOf?_cons (c : Char) (t : Text) : splitAtInnerOf? (c :: t) =
    match if Text.isBlank c then dropOf? (t.dropWhile Text.isBlank) else none with
    | some after => some ([], after)
    | none => (splitAtInnerOf? t).map fun (before, after) => (c :: before, after) :=
  splitAtInnerOf?.eq_def (c :: t)

theorem splitAtInnerOf?_word (hw : ∀ c ∈ w, Text.isBlank c = false) (ht : Stops Text.isBlank t) :
    splitAtInnerOf? (w ++ ' ' :: t) =
      match dropOf? t with
      | some after => some (w, after)
      | none => (splitAtInnerOf? t).map fun (before, after) => (w ++ ' ' :: before, after) := by
  induction w with
  | nil =>
      have hblank : Text.isBlank ' ' = true := by decide
      rw [List.nil_append, splitAtInnerOf?_cons, if_pos hblank, Text.dropWhile_eq_self ht]
      rfl
  | cons c w ih =>
      rw [List.forall_mem_cons] at hw
      rw [List.cons_append, splitAtInnerOf?_cons, hw.1, if_neg Bool.false_ne_true, ih hw.2]
      cases dropOf? t with
      | some after => rfl
      | none => cases splitAtInnerOf? t <;> rfl

theorem splitAtInnerOf?_join (hw : IsWord w) (hrest : ∀ v ∈ rest, IsWord v ∧ v ≠ "of".toList) (hne : back ≠ [])
    (hback : ∀ v ∈ back, IsWord v) : splitAtInnerOf? (Text.join [' '] (w :: rest ++ "of".toList :: back)) =
      some (Text.join [' '] (w :: rest), Text.join [' '] back) := by
  have hof : IsWord "of".toList := by decide
  induction rest generalizing w with
  | nil =>
      have hstops : Stops Text.isBlank (Text.join [' '] ("of".toList :: back)) :=
        Text.stops_join (List.forall_mem_cons.2 ⟨hof, hback⟩)
      have hfound : dropOf? (Text.join [' '] ("of".toList :: back)) = some (Text.join [' '] back) := by
        rw [join_cons hne, List.singleton_append, dropOf?_word hof.2, if_pos rfl,
          Text.dropWhile_eq_self (Text.stops_join hback)]
      rw [List.singleton_append, join_cons (List.cons_ne_nil _ _), List.singleton_append,
        splitAtInnerOf?_word hw.2 hstops, hfound, join_singleton]
  | cons v rest ih =>
      have hv := hrest v List.mem_cons_self
      have hlater : ∀ u ∈ rest, IsWord u ∧ u ≠ "of".toList := fun u hu => hrest u (List.mem_cons_of_mem v hu)
      have hwords : ∀ u ∈ v :: (rest ++ "of".toList :: back), IsWord u := by
        simp only [List.forall_mem_cons, List.forall_mem_append]
        exact ⟨hv.1, fun u hu => (hlater u hu).1, hof, hback⟩
      have hpassed : dropOf? (Text.join [' '] (v :: (rest ++ "of".toList :: back))) = none := by
        rw [join_cons (by simp), List.singleton_append, dropOf?_word hv.1.2, if_neg hv.2]
      have hagain := ih hv.1 hlater
      rw [List.cons_append] at hagain
      rw [List.cons_append, List.cons_append, join_cons (List.cons_ne_nil _ _), List.singleton_append,
        splitAtInnerOf?_word hw.2 (Text.stops_join hwords), hpassed, hagain, join_cons (List.cons_ne_nil _ _)]
      rfl

theorem splitAtOf?_join (hne : front ≠ []) (hfront : ∀ v ∈ front, IsWord v ∧ v ≠ "of".toList) (hne' : back ≠ [])
    (hback : ∀ v ∈ back, IsWord v) : splitAtOf? (Text.join [' '] (front ++ "of".toList :: back)) =
      some (Text.join [' '] front, Text.join [' '] back) := by
  obtain ⟨w, rest, rfl⟩ := List.exists_cons_of_ne_nil hne
  rw [List.forall_mem_cons] at hfront
  have hstart : dropOf? (Text.join [' '] (w :: rest ++ "of".toList :: back)) = none := by
    rw [List.cons_append, join_cons (by simp), List.singleton_append, dropOf?_word hfront.1.1.2, if_neg hfront.1.2]
  rw [splitAtOf?, hstart]
  exact splitAtInnerOf?_join hfront.1.1 hfront.2 hne' hback

/-! ### The names -/

/-- The words of the names. -/
def nameWords (item : Text) : Option Text → List Text
  | none => [item]
  | some name => ["(" ++ item ++ ",", name ++ ")"]

theorem writtenNames_eq (item : Text) (index : Option Text) :
    writtenNames item index = Text.join [' '] (nameWords item index) := by
  cases index with
  | none => exact (join_singleton _ _).symm
  | some name => simp [writtenNames, nameWords, Text.join, List.intercalate]

theorem WritableLoop.source_isWord (h : WritableLoop item index source key) : IsWord source :=
  ⟨h.source_ne_nil, fun c hc => (h.source_chars c hc).1⟩

theorem WritableLoop.nameWords_isWord (h : WritableLoop item index source key) :
    ∀ v ∈ nameWords item index, IsWord v ∧ v ≠ "of".toList := by
  have hitem := h.item_name.isWord
  cases index with
  | none => simpa [nameWords] using ⟨hitem, h.bare_item rfl⟩
  | some name =>
      have hname := (h.index_name name rfl).isWord
      have hparen : IsWord "(" := by decide
      have hopen : IsWord ("(" ++ item ++ ",") := (hparen.append hitem).append (by decide)
      have hclose : IsWord (name ++ ")") := hname.append (by decide)
      have hopen_ne : "(" ++ item ++ "," ≠ "of".toList := by simp
      have hclose_ne : name ++ ")" ≠ "of".toList := by
        intro heq
        have hlast := congrArg List.getLast? heq
        simp at hlast
      exact List.forall_mem_cons.2 ⟨⟨hopen, hopen_ne⟩, List.forall_mem_singleton.2 ⟨hclose, hclose_ne⟩⟩

theorem loopNames_bare (h : IsIdentifier item) : loopNames item = .ok (item, none) := by
  have hbare : item.startsWith "(" = false := by
    rw [Bool.eq_false_iff, ne_eq, Text.startsWith_iff]
    intro hparen
    exact h.notMem (c := '(') (by decide +kernel) (hparen.subset List.mem_cons_self)
  rw [loopNames, hbare]
  rfl

theorem loopNames_pair (hitem : IsIdentifier item) (hname : IsIdentifier name) :
    loopNames ("(" ++ item ++ ", " ++ name ++ ")") = .ok (item, some name) := by
  have htext : "(".toList ++ item ++ ", ".toList ++ name ++ ")".toList =
      '(' :: (item ++ ',' :: ' ' :: name ++ [')']) := by
    simp
  have hstarts : Text.startsWith ('(' :: (item ++ ',' :: ' ' :: name ++ [')'])) "(" = true :=
    Text.startsWith_iff.2 (List.prefix_append ['('] _)
  have hends : Text.endsWith ('(' :: (item ++ ',' :: ' ' :: name ++ [')'])) ")" = true :=
    List.isSuffixOf_iff_suffix.2 (List.suffix_append ('(' :: (item ++ ',' :: ' ' :: name)) [')'])
  have hcomma : isNamePart ',' = false := by decide +kernel
  have hindex : Text.pieces ',' (' ' :: name) = (' ' :: name, []) := by
    have hnot : ',' ∉ ' ' :: name := by simpa using hname.notMem hcomma
    simpa [Text.pieces] using Text.pieces_append_of_notMem hnot []
  have hpieces : Text.pieces ',' (item ++ ',' :: ' ' :: name) = (item, [' ' :: name]) := by
    rw [Text.pieces_append_of_notMem (hitem.notMem hcomma), Text.pieces, hindex]
    simp
  have hspace : Text.strip (' ' :: name) = name := by rw [Text.strip_space, hname.isWord.strip_eq]
  rw [htext, loopNames, hstarts, hends]
  simp only [Bool.and_self, if_true, List.drop_succ_cons, List.drop_zero, List.dropLast_concat, hpieces,
    hitem.isWord.strip_eq, hspace]

theorem WritableLoop.loopNames_eq (h : WritableLoop item index source key) :
    loopNames (writtenNames item index) = .ok (item, index) := by
  cases index with
  | none => exact loopNames_bare h.item_name
  | some name => exact loopNames_pair h.item_name (h.index_name name rfl)

theorem nameWords_ne_nil (item : Text) (index : Option Text) : nameWords item index ≠ [] := by
  cases index <;> exact List.cons_ne_nil _ _

/-- The part of a loop in front of the semicolon. -/
def writtenClause (item : Text) (index : Option Text) (source : Text) : Text :=
  Text.join [' '] (nameWords item index ++ ["of".toList, source])

theorem writtenClause_eq (item : Text) (index : Option Text) (source : Text) :
    writtenClause item index source = writtenNames item index ++ " of " ++ source := by
  rw [writtenClause, Text.join_append (nameWords_ne_nil item index) (List.cons_ne_nil _ _), ← writtenNames_eq,
    join_cons (List.cons_ne_nil _ _), join_singleton]
  simp

theorem WritableLoop.iteration_eq (h : WritableLoop item index source key) :
    iteration (writtenClause item index source) = .ok (item, index, source) := by
  have hnames := h.nameWords_isWord
  have hbinder : (writtenNames item index).strip = writtenNames item index := by
    rw [writtenNames_eq]
    exact Text.strip_join fun v hv => (hnames v hv).1
  have hbinder_ne : (writtenNames item index).isEmpty = false := by
    rw [writtenNames_eq, List.isEmpty_eq_false_iff]
    exact Text.join_ne_nil (nameWords_ne_nil item index) fun v hv => (hnames v hv).1
  have hsource_ne : source.isEmpty = false := List.isEmpty_eq_false_iff.2 h.source_ne_nil
  have hindex : index.forM checkName = .ok () := by
    cases index with
    | none => rfl
    | some name => exact (h.index_name name rfl).checkName_eq
  rw [iteration, writtenClause, splitAtOf?_join (nameWords_ne_nil item index) hnames (List.cons_ne_nil source [])
    (by simpa using h.source_isWord), join_singleton, ← writtenNames_eq]
  simp only [hbinder, h.source_isWord.strip_eq, hbinder_ne, hsource_ne, Bool.or_self, Bool.false_eq_true, if_false,
    h.loopNames_eq]
  change (do checkName item; index.forM checkName; pure (item, index, source)) = _
  rw [h.item_name.checkName_eq, hindex]
  rfl

/-! ### The key -/

theorem partitionAt_of_notMem {mark : Char} (h : mark ∉ t) : partitionAt mark t = (t, none) := by
  have hwhole : t.takeWhile (· != mark) = t := by
    rw [List.takeWhile_eq_self_iff]
    exact fun c hc => bne_iff_ne.2 (ne_of_mem_of_not_mem hc h)
  simp [partitionAt, hwhole]

theorem partitionAt_append {mark : Char} (h : mark ∉ s) (t : Text) :
    partitionAt mark (s ++ mark :: t) = (s, some t) := by
  have hclass : ∀ c ∈ s, (c != mark) = true := fun c hc => bne_iff_ne.2 (ne_of_mem_of_not_mem hc h)
  have hstops : Stops (· != mark) (mark :: t) := Text.stops_cons.2 (by simp)
  simp [partitionAt, Text.takeWhile_append_stops hclass hstops]

theorem IsKeyPath.isWord (h : IsKeyPath path) : IsWord path := by
  refine ⟨h.1, fun c hc => ?_⟩
  rcases h.2 c hc with hletter | rfl
  · exact Text.isBlank_of_isWordChar (Text.isWordChar_of_isAlpha hletter)
  · decide

theorem IsKeyPath.keyPath_eq (h : IsKeyPath path) : keyPath ("key: " ++ path) = .ok path := by
  have htext : "key: ".toList ++ path = "key".toList ++ ':' :: ' ' :: path := by simp
  have hspace : Text.strip (' ' :: path) = path := by rw [Text.strip_space, h.isWord.strip_eq]
  have hword : Text.strip ['k', 'e', 'y'] = ['k', 'e', 'y'] := by decide
  have hpath : isPath path = true := (isPath_iff (newline_not_mem h.2)).2 h.2
  rw [htext, keyPath, partitionAt_append (by decide)]
  simp [hspace, hword, hpath, h.1]

theorem IsKeyPath.strip_clause (h : IsKeyPath path) : Text.strip (' ' :: ("key: " ++ path)) = "key: " ++ path := by
  have hcolon : IsWord "key:".toList := by decide
  have hwords : "key: ".toList ++ path = Text.join [' '] ["key:".toList, path] := by simp [Text.join, List.intercalate]
  have hboth : ∀ v ∈ ["key:".toList, path], IsWord v := by
    simp only [List.forall_mem_cons]
    exact ⟨hcolon, h.isWord, List.forall_mem_nil _⟩
  rw [Text.strip_space, hwords, Text.strip_join hboth]

/-! ### Definitions -/

/-- The words of a definition. -/
def loopWords (item : Text) (index : Option Text) (source : Text) (key : Option Text) : List Text :=
  nameWords item index ++ "of".toList :: key.elim [source] fun path => [source ++ ";", "key:", path]

theorem writtenLoop_eq_clause (item : Text) (index : Option Text) (source : Text) (key : Option Text) :
    writtenLoop item index source key = writtenClause item index source ++ writtenKey key := by
  rw [writtenClause_eq, writtenLoop]

theorem writtenLoop_eq_join (item : Text) (index : Option Text) (source : Text) (key : Option Text) :
    writtenLoop item index source key = Text.join [' '] (loopWords item index source key) := by
  cases key with
  | none =>
      rw [writtenLoop_eq_clause, writtenKey, Option.elim_none, List.append_nil, writtenClause, loopWords,
        Option.elim_none]
  | some path =>
      rw [loopWords, Text.join_append (nameWords_ne_nil item index) (List.cons_ne_nil _ _), ← writtenNames_eq]
      simp [writtenLoop, writtenKey, Text.join, List.intercalate]

theorem WritableLoop.loopWords_isWord (h : WritableLoop item index source key) :
    ∀ v ∈ loopWords item index source key, IsWord v := by
  have hnames : ∀ v ∈ nameWords item index, IsWord v := fun v hv => (h.nameWords_isWord v hv).1
  have hof : IsWord "of".toList := by decide
  cases key with
  | none =>
      simp only [loopWords, Option.elim_none, List.forall_mem_append, List.forall_mem_cons]
      exact ⟨hnames, hof, h.source_isWord, List.forall_mem_nil _⟩
  | some path =>
      have hsource : IsWord (source ++ ";") := h.source_isWord.append (by decide)
      simp only [loopWords, Option.elim_some, List.forall_mem_append, List.forall_mem_cons]
      exact ⟨hnames, hof, hsource, by decide, (h.key_path path rfl).isWord, List.forall_mem_nil _⟩

theorem loopText_wordAttributes {ws : List Text} (h : ∀ v ∈ ws, IsWord v) :
    loopText (wordAttributes (Text.join [' '] ws)) = Text.join [' '] ws := by
  have hkeys : (wordAttributes (Text.join [' '] ws)).map (·.key.strip) = ws := by
    rw [wordAttributes, Text.words_join h, List.map_map]
    exact (List.map_congr_left fun v hv => (h v hv).strip_eq).trans (List.map_id ws)
  rw [loopText, hkeys]
  exact Text.strip_join h

theorem WritableLoop.semicolon_notMem (h : WritableLoop item index source key) :
    ';' ∉ writtenClause item index source := by
  have hmark : isNamePart ';' = false := by decide +kernel
  have hnames : ';' ∉ writtenNames item index := by
    cases index with
    | none => exact h.item_name.notMem hmark
    | some name => simp [writtenNames, h.item_name.notMem hmark, (h.index_name name rfl).notMem hmark]
  have hsource : ';' ∉ source := fun hmem => (h.source_chars ';' hmem).2 rfl
  rw [writtenClause_eq]
  simp [hnames, hsource]

theorem WritableLoop.loopOf_eq (h : WritableLoop item index source key) :
    loopOf (writtenLoop item index source key) = .ok (.repeating (.ofText source) item index key) := by
  have hclause : (writtenClause item index source).strip = writtenClause item index source := by
    apply Text.strip_join
    simp only [List.forall_mem_append, List.forall_mem_cons]
    exact ⟨fun v hv => (h.nameWords_isWord v hv).1, by decide, h.source_isWord, List.forall_mem_nil _⟩
  rw [writtenLoop_eq_clause]
  cases key with
  | none =>
      rw [writtenKey, Option.elim_none, List.append_nil, loopOf, partitionAt_of_notMem h.semicolon_notMem]
      simp only [hclause, h.iteration_eq]
      rfl
  | some path =>
      have hpath := h.key_path path rfl
      have hkey : writtenKey (some path) = ';' :: ' ' :: ("key: ".toList ++ path) := by simp [writtenKey]
      have hne : ("key: ".toList ++ path).isEmpty = false := by simp
      rw [hkey, loopOf, partitionAt_append h.semicolon_notMem]
      simp only [hclause, h.iteration_eq, Option.getD_some, hpath.strip_clause, hne, hpath.keyPath_eq]
      rfl

theorem WritableLoop.loop_eq (h : WritableLoop item index source key) :
    loop (wordAttributes (writtenLoop item index source key)) = .ok (.repeating (.ofText source) item index key) := by
  rw [loop, writtenLoop_eq_join, loopText_wordAttributes h.loopWords_isWord, ← writtenLoop_eq_join]
  exact h.loopOf_eq

/-- A loop whose definition is written down, and whose attributes are the words of it, is read with exactly the parts it
was written with. -/
theorem Element.node_writtenLoop {tag : Text} (htag : tag.lower = "w:for".toList)
    (h : WritableLoop item index source key) (position : Option Position) :
    Element.node ⟨tag, wordAttributes (writtenLoop item index source key), position⟩ =
      .ok (.ofContent (.repeating (.ofText source) item index key) (some position)) :=
  node_eq_ok_iff.2 (.repeating htag h.loop_eq)

theorem Element.node_writtenLoop_of :
    WritableLoop "of" (some "of".toList) "of" (some "of.id".toList) ∧
      Element.node ⟨"w:for",
          [⟨"(of,", none⟩, ⟨"of)", none⟩, ⟨"of", none⟩, ⟨"of;", none⟩, ⟨"key:", none⟩, ⟨"of.id", none⟩],
          some ⟨1, 1⟩⟩ =
        .ok (.ofContent (.repeating (.ofText "of") "of" (some "of".toList) (some "of.id".toList))
          (some (some ⟨1, 1⟩))) := by
  have hname : IsIdentifier "of" := ⟨'o', ['f'], rfl, by decide, List.forall_mem_singleton.2 (by decide +kernel)⟩
  have hloop : WritableLoop "of" (some "of".toList) "of" (some "of.id".toList) := by
    refine ⟨hname, ?_, nofun, by decide, by simp [Text.isBlank], ?_⟩
    · rintro name ⟨⟩
      exact hname
    · rintro path ⟨⟩
      exact ⟨by decide, by simp⟩
  have hwords : wordAttributes (writtenLoop "of" (some "of".toList) "of" (some "of.id".toList)) =
      [⟨"(of,", none⟩, ⟨"of)", none⟩, ⟨"of", none⟩, ⟨"of;", none⟩, ⟨"key:", none⟩, ⟨"of.id", none⟩] := by
    decide +kernel
  rw [← hwords]
  exact ⟨hloop, Element.node_writtenLoop (by decide) hloop (some ⟨1, 1⟩)⟩

-- A bare item of that name is taken for the word behind it.
example : loop (wordAttributes "of of items") = .error .loopShape := by decide +kernel

end ViewCompiler.Template
