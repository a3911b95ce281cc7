import VolumeMigration.Proofs.Yaml.ReadBack

/-!
# A written tree is one document

Before a text is read as a document, its line ends are made line feeds, and the lines `---` and
`...` divide it. A written tree is left alone by both: it has none but printable characters, and no
line of it starts by three dashes or three dots. That holds of every part of it at the start of a
line, so where a part stands on its line does not matter.
-/

namespace VolumeMigration.Yaml

variable {rest w : List Char} {c : Char} {begins : Bool} {n indent : Nat}

/-! ### Tidy texts -/

/-- Whether a text starts as a line that is an edge of a document. -/
def startsEdge (cs : List Char) : Bool := "---".toList.isPrefixOf cs || "...".toList.isPrefixOf cs

/-- Whether every character of a text can be written as it is and no line of it starts as the edge
of a document; `begins` tells whether a line begins where the text begins. -/
def isTidy (begins : Bool) : List Char → Bool
  | [] => true
  | c :: cs => isPrintable c && !(begins && startsEdge (c :: cs)) && isTidy (c == '\n') cs

/-- Only at the start of a line can an edge stand. -/
theorem isTidy_of_begins {cs : List Char} (h : isTidy true cs) : isTidy begins cs := by
  cases cs with
  | nil => rfl
  | cons c cs =>
    simp only [isTidy, Bool.and_eq_true] at h ⊢
    refine ⟨⟨h.1.1, ?_⟩, h.2⟩
    cases begins with
    | false => rfl
    | true => exact h.1.2

theorem isTidy_feed (h : isTidy true rest) : isTidy begins ('\n' :: rest) := by
  rw [isTidy, Bool.and_eq_true, Bool.and_eq_true]
  exact ⟨⟨rfl, by cases begins <;> rfl⟩, h⟩

/-- A character that no edge starts with. -/
theorem isTidy_cons (hc : isPrintable c) (hedge : startsEdge (c :: rest) = false)
    (h : isTidy true rest) : isTidy begins (c :: rest) := by
  rw [isTidy, hc, hedge, isTidy_of_begins h, Bool.and_false]
  rfl

/-- Inside a line no edge starts. -/
theorem isTidy_inner (hw : ∀ c ∈ w, isPrintable c ∧ c ≠ '\n') (h : isTidy false rest) :
    isTidy false (w ++ rest) := by
  induction w with
  | nil => exact h
  | cons c w ih =>
    obtain ⟨⟨hc, hfeed⟩, hw⟩ := List.forall_mem_cons.1 hw
    rw [List.cons_append, isTidy, hc, beq_eq_false_iff_ne.2 hfeed, ih hw]
    rfl

/-- A piece of a line is tidy if its beginning is no edge. -/
theorem isTidy_line (hne : w ≠ []) (hw : ∀ c ∈ w, isPrintable c ∧ c ≠ '\n')
    (hedge : startsEdge (w ++ rest) = false) (h : isTidy false rest) : isTidy true (w ++ rest) := by
  cases w with
  | nil => exact absurd rfl hne
  | cons c w =>
    obtain ⟨⟨hc, hfeed⟩, hw⟩ := List.forall_mem_cons.1 hw
    rw [List.cons_append] at hedge ⊢
    rw [isTidy, hc, hedge, beq_eq_false_iff_ne.2 hfeed, isTidy_inner hw h]
    rfl

/-- What is indented is no edge. -/
theorem isTidy_indented (hn : 0 < n) (h : isTidy false rest) : isTidy true (spaces n ++ rest) := by
  obtain ⟨n, rfl⟩ := Nat.exists_eq_add_one.2 hn
  refine isTidy_line (List.cons_ne_nil _ _) (fun c hc ↦ ?_) rfl h
  rw [mem_spaces hc]
  decide

/-- Spaces at the start of a line do no harm. -/
theorem isTidy_spaces (n : Nat) (h : isTidy true rest) : isTidy true (spaces n ++ rest) := by
  cases n with
  | zero => exact h
  | succ n => exact isTidy_indented (Nat.succ_pos n) (isTidy_of_begins h)

/-! ### Written scalars -/

theorem isPrefixOf_append_cons {marker : List Char} (hc : c ∉ marker) :
    marker.isPrefixOf (w ++ c :: rest) = marker.isPrefixOf w := by
  induction marker generalizing w with
  | nil => simp
  | cons m marker ih =>
    obtain ⟨hm, hmarker⟩ := not_or.1 (mt List.mem_cons.2 hc)
    cases w with
    | nil => simp [List.isPrefixOf, Ne.symm hm]
    | cons d w => rw [List.cons_append, List.isPrefixOf, List.isPrefixOf, ih hmarker]

/-- What a text is as an edge is decided before any character but a dash or a dot. -/
theorem startsEdge_append (hdash : c ≠ '-') (hdot : c ≠ '.') :
    startsEdge (w ++ c :: rest) = startsEdge w := by
  rw [startsEdge, isPrefixOf_append_cons (by simpa using hdash),
    isPrefixOf_append_cons (by simpa using hdot)]
  rfl

/-- A marker begins by a dash or a dot. -/
theorem startsEdge_cons (hdash : c ≠ '-') (hdot : c ≠ '.') : startsEdge (c :: rest) = false :=
  startsEdge_append (w := []) hdash hdot

theorem printable_of_isLineChar (h : Reader.isLineChar c) : isPrintable c ∧ c ≠ '\n' :=
  ⟨(Bool.and_eq_true_iff.1 h).1, ne_feed_of_isBreak (Reader.isBreak_of_isLineChar h)⟩

theorem IsPlain.starts (h : IsPlain w) : w ≠ [] ∧ startsEdge w = false := by
  refine ⟨?_, by rw [startsEdge, h.noDashes, h.noDots]; rfl⟩
  rintro rfl
  cases h.outer

/-- What is written on the line of a scalar is there, and does not look like a marker. -/
theorem starts_write {style : Style} {s : String} (hholds : style.Holds s)
    (hliteral : style ≠ .literal) :
    (write style indent s).chars ≠ [] ∧ startsEdge (write style indent s).chars = false := by
  cases hholds with
  | plain hplain hmeans => exact hplain.starts
  | single hsingle => exact ⟨List.cons_ne_nil _ _, rfl⟩
  | double s => exact ⟨List.cons_ne_nil _ _, rfl⟩
  | literal hne hprintable => exact absurd rfl hliteral

/-- A scalar that is no block, before the end of its line or its colon. -/
theorem isTidy_write {style : Style} {s : String} (hholds : style.Holds s)
    (hliteral : style ≠ .literal) (hdash : c ≠ '-') (hdot : c ≠ '.')
    (h : isTidy true (c :: rest)) : isTidy true ((write style indent s).chars ++ c :: rest) := by
  obtain ⟨hne, hedge⟩ := @starts_write indent style s hholds hliteral
  refine isTidy_line hne (fun d hd ↦ ?_) ((startsEdge_append hdash hdot).trans hedge)
    (isTidy_of_begins h)
  obtain hline | ⟨-, hd⟩ := Reader.mem_write hholds hliteral hd
  · exact printable_of_isLineChar hline
  · exact hd

/-- Lines of a block are indented, or empty. -/
theorem isTidy_literalBody {cs : List Char} (hcs : ∀ c ∈ cs, isPrintable c) (hindent : 0 < indent)
    (h : isTidy true rest) :
    isTidy true (literalBody indent true cs ++ rest) ∧
      isTidy false (literalBody indent false cs ++ rest) := by
  induction cs with
  | nil => exact ⟨h, isTidy_of_begins h⟩
  | cons c cs ih =>
    obtain ⟨hc, hcs⟩ := List.forall_mem_cons.1 hcs
    obtain ⟨htrue, hfalse⟩ := ih hcs
    cases hbreak : isBreak c with
    | true =>
      have hfeed {b : Bool} : isTidy b (c :: (literalBody indent true cs ++ rest)) := by
        refine isTidy_cons hc (startsEdge_cons ?_ ?_) htrue <;> rintro rfl <;> cases hbreak
      rw [literalBody_break true hbreak, literalBody_break false hbreak]
      exact ⟨hfeed, hfeed⟩
    | false =>
      have hfeed : (c == '\n') = false := beq_eq_false_iff_ne.2 (ne_feed_of_isBreak hbreak)
      have hline : isTidy false (c :: (literalBody indent false cs ++ rest)) := by
        rw [isTidy, hc, hfeed, hfalse]
        rfl
      -- a character that begins a line stands behind the indentation, where no edge starts
      have hbody (b : Bool) : literalBody indent b (c :: cs) =
          (if b then spaces indent else []) ++ c :: literalBody indent false cs := by
        rw [literalBody, hbreak]
        rfl
      rw [hbody, hbody, if_pos rfl, List.append_assoc]
      exact ⟨isTidy_indented hindent hline, hline⟩

/-! ### Written trees -/

theorem isTidy_wordLine {word : String} (hword : IsPlain word.toList) (h : isTidy true rest) :
    isTidy true (wordLine word ++ rest) := by
  have hedge : startsEdge (word.toList ++ '\n' :: rest) = false :=
    (startsEdge_append (by decide) (by decide)).trans hword.starts.2
  rw [wordLine, List.append_assoc]
  exact isTidy_line hword.starts.1 (fun c hc ↦ printable_of_isLineChar (hword.line c hc)) hedge
    (isTidy_feed h)

theorem isTidy_brackets {brackets : List Char}
    (hbrackets : brackets = ['[', ']'] ∨ brackets = ['\x7b', '\x7d']) (h : isTidy true rest) :
    isTidy true (brackets ++ ['\n'] ++ rest) := by
  have hline : ∀ c ∈ brackets, isPrintable c ∧ c ≠ '\n' := by
    obtain rfl | rfl := hbrackets <;> simp [isPrintable]
  rw [List.append_assoc]
  obtain rfl | rfl := hbrackets
  · exact isTidy_line (List.cons_ne_nil _ _) hline rfl (isTidy_feed h)
  · exact isTidy_line (List.cons_ne_nil _ _) hline rfl (isTidy_feed h)

theorem isTidy_scalarLine (s : String) (indent : Nat) (h : isTidy true rest) :
    isTidy true (scalarLine indent s ++ rest) := by
  have hholds := holds_styleOf false s
  by_cases hliteral : styleOf false s = .literal
  · rw [hliteral] at hholds
    cases hholds with
    | literal hne hprintable =>
      have hclosed : ∀ c ∈ closed s.toList, isPrintable c := by
        intro c hc
        rw [closed] at hc
        split at hc
        · exact hprintable c hc
        · obtain hc | hc := List.mem_append.1 hc
          · exact hprintable c hc
          · rw [List.eq_of_mem_singleton hc]
            rfl
      have hbody := (isTidy_literalBody hclosed (Nat.succ_pos (indent + 1)) h).1
      have hhints : ∀ c ∈ '|' :: literalHints s.toList, isPrintable c ∧ c ≠ '\n' := by
        intro c hc
        obtain rfl | hc := List.mem_cons.1 hc
        · decide
        · obtain rfl | rfl | rfl := mem_literalHints hne hc <;> decide
      rw [scalarLine_literal hliteral, List.cons_append, List.append_assoc, List.cons_append,
        ← List.cons_append]
      exact isTidy_line (List.cons_ne_nil _ _) hhints rfl (isTidy_feed hbody)
  · rw [scalarLine_of_ne_literal hliteral, List.append_assoc]
    exact isTidy_write hholds hliteral (by decide) (by decide) (isTidy_feed h)

/-- A tree is tidy wherever it is written. -/
structure IsTidy (t : Tree) : Prop where
  node : ∀ ⦃n indent : Nat⦄ ⦃rest : List Char⦄, isTidy true rest →
    isTidy true (block (spaces n) indent t ++ rest)
  value : ∀ ⦃indent : Nat⦄ ⦃rest : List Char⦄, isTidy true rest →
    isTidy true (keyValue indent t ++ rest)

/-- Leaves are tidy. -/
theorem isTidy_leaf {t : Tree} (ht : isLeaf t) (h : isTidy true rest) :
    isTidy true (block (spaces n) indent t ++ rest) := by
  cases t with
  | null =>
    rw [block, List.append_assoc]
    exact isTidy_spaces n (isTidy_wordLine isPlain_null h)
  | bool b =>
    rw [block, List.append_assoc]
    exact isTidy_spaces n (isTidy_wordLine (isPlain_boolWord b) h)
  | int k =>
    rw [block, List.append_assoc]
    exact isTidy_spaces n (isTidy_wordLine (isPlain_toString k) h)
  | real x =>
    rw [block, List.append_assoc]
    exact isTidy_spaces n (isTidy_wordLine (isPlain_realWord x) h)
  | string s =>
    rw [block, List.append_assoc]
    exact isTidy_spaces n (isTidy_scalarLine s _ h)
  | list items =>
    cases items with
    | nil =>
      rw [block, List.append_assoc]
      exact isTidy_spaces n (isTidy_brackets (.inl rfl) h)
    | cons item items => cases ht
  | map entries =>
    cases entries with
    | nil =>
      have hblock : block (spaces n) indent (.map []) = spaces n ++ wordLine "\x7b\x7d" := by
        rw [block]
        rfl
      rw [hblock, List.append_assoc]
      exact isTidy_spaces n (isTidy_brackets (.inr rfl) h)
    | cons entry entries => cases ht

/-- An item. -/
theorem isTidy_itemText {item : Tree} (hitem : IsTidy item) (h : isTidy true rest) :
    isTidy true (itemText indent item ++ rest) := by
  obtain ⟨ch, behind, hcons, -⟩ := exists_block_eq_cons (spaces 1) (indent + 2) item
  have hnode : isTidy true (block (spaces 1) (indent + 2) item ++ rest) := hitem.node h
  rw [hcons] at hnode
  have htext : itemText indent item = '-' :: (spaces 1 ++ ch :: behind) := by rw [← hcons]; rfl
  rw [htext]
  exact isTidy_cons rfl rfl hnode

/-- A list of tidy items is tidy. -/
theorem isTidy_itemLines {items : List Tree} (hitems : ∀ t ∈ items, IsTidy t)
    (h : isTidy true rest) : isTidy true (itemLines indent items ++ rest) := by
  induction items with
  | nil => exact h
  | cons item items ih =>
    obtain ⟨hitem, hitems⟩ := List.forall_mem_cons.1 hitems
    rw [itemLines_cons, List.append_assoc, List.append_assoc]
    exact isTidy_spaces indent (isTidy_itemText hitem (ih hitems))

theorem isTidy_entryText {entry : String × Tree} (hvalue : IsTidy entry.2)
    (h : isTidy true rest) : isTidy true (entryText indent entry ++ rest) := by
  cases hkey : isSimpleKey entry.1 with
  | true =>
    rw [entryText_simple hkey, List.append_assoc]
    refine isTidy_write (holds_styleOf true entry.1) (styleOf_key_ne_literal entry.1) (by decide)
      (by decide) ?_
    exact isTidy_cons rfl rfl (hvalue.value h)
  | false =>
    have hcolon : isTidy true (':' :: (block (spaces 1) (indent + 2) entry.2 ++ rest)) :=
      isTidy_cons rfl rfl (hvalue.node h)
    have hscalar := isTidy_spaces 1 (isTidy_scalarLine entry.1 indent (isTidy_spaces indent hcolon))
    rw [entryText_long hkey, List.cons_append, List.append_assoc, List.append_assoc,
      List.append_assoc, List.cons_append]
    exact isTidy_cons rfl rfl hscalar

/-- A map of tidy values is tidy. -/
theorem isTidy_entryLines {entries : List (String × Tree)} (hentries : ∀ e ∈ entries, IsTidy e.2)
    (h : isTidy true rest) : isTidy true (entryLines indent entries ++ rest) := by
  induction entries with
  | nil => exact h
  | cons entry entries ih =>
    obtain ⟨hvalue, hentries⟩ := List.forall_mem_cons.1 hentries
    rw [entryLines_cons, List.append_assoc, List.append_assoc]
    exact isTidy_spaces indent (isTidy_entryText hvalue (ih hentries))

/-- Every tree is tidy. -/
theorem isTidy_tree (t : Tree) : IsTidy t := by
  have hleaf {t : Tree} (ht : isLeaf t) : IsTidy t := by
    refine ⟨fun _ _ _ h ↦ isTidy_leaf ht h, fun _ _ h ↦ ?_⟩
    rw [keyValue_leaf ht]
    exact isTidy_leaf ht h
  induction t using Tree.induct with
  | null => exact hleaf rfl
  | bool b => exact hleaf rfl
  | int n => exact hleaf rfl
  | real x => exact hleaf rfl
  | string s => exact hleaf rfl
  | list items ih =>
    cases items with
    | nil => exact hleaf rfl
    | cons item items =>
      obtain ⟨hitem, hitems⟩ := List.forall_mem_cons.1 ih
      refine ⟨fun n indent rest h ↦ ?_, fun indent rest h ↦ ?_⟩
      · rw [block_list, List.append_assoc, List.append_assoc]
        exact isTidy_spaces n (isTidy_itemText hitem (isTidy_itemLines hitems h))
      · rw [keyValue_list]
        exact isTidy_feed (isTidy_itemLines ih h)
  | map entries ih =>
    cases entries with
    | nil => exact hleaf rfl
    | cons entry entries =>
      obtain ⟨first, others, horder⟩ := Tree.exists_inOrder_eq_cons (List.cons_ne_nil entry entries)
      have hall : ∀ e ∈ first :: others, IsTidy e.2 := horder ▸ Tree.forall_mem_inOrder ih
      obtain ⟨hfirst, hothers⟩ := List.forall_mem_cons.1 hall
      refine ⟨fun n indent rest h ↦ ?_, fun indent rest h ↦ ?_⟩
      · rw [block_map horder, List.append_assoc, List.append_assoc]
        exact isTidy_spaces n (isTidy_entryText hfirst (isTidy_entryLines hothers h))
      · rw [keyValue_map (List.cons_ne_nil _ _), horder]
        exact isTidy_feed (isTidy_entryLines hall h)

/-! ### Line ends and lines -/

/-- Everything in a tidy text can be printed. -/
theorem isPrintable_of_isTidy {cs : List Char} (h : isTidy begins cs) :
    ∀ c ∈ cs, isPrintable c := by
  induction cs generalizing begins with
  | nil => exact fun c hc ↦ absurd hc List.not_mem_nil
  | cons c cs ih =>
    simp only [isTidy, Bool.and_eq_true] at h
    exact List.forall_mem_cons.2 ⟨h.1.1, ih h.2⟩

/-- Printable text has no line ends but line feeds. -/
theorem withLineFeeds_eq {cs : List Char} (h : ∀ c ∈ cs, isPrintable c) :
    withLineFeeds cs = cs := by
  induction cs with
  | nil => rfl
  | cons c cs ih =>
    obtain ⟨hc, hcs⟩ := List.forall_mem_cons.1 h
    have hreturn : c ≠ '\r' := by
      rintro rfl
      cases hc
    have hnext : c.toNat ≠ 0x85 := by
      intro hnext
      rw [isPrintable, hnext] at hc
      cases hc
    rw [withLineFeeds, ih hcs]
    · simp [hreturn, hnext]
    · exact fun _ h ↦ absurd h hreturn

theorem startsEdge_of_prefix {line cs : List Char} (hstarts : line <+: cs)
    (h : startsEdge cs = false) : startsEdge line = false := by
  rw [startsEdge, Bool.or_eq_false_iff] at h ⊢
  have hmarker {marker : List Char} (h : marker.isPrefixOf cs = false) :
      marker.isPrefixOf line = false := by
    rw [Bool.eq_false_iff, ne_eq, List.isPrefixOf_iff_prefix] at h ⊢
    exact fun hmarker ↦ h (hmarker.trans hstarts)
  exact ⟨hmarker h.1, hmarker h.2⟩

/-- The lines of a tidy text: none but the first can be an edge, and the first can only inside a
line. -/
theorem exists_splitOn_of_isTidy {cs : List Char} (h : isTidy begins cs) :
    ∃ line lines, cs.splitOn '\n' = line :: lines ∧ line <+: cs ∧
      (begins = true → startsEdge line = false) ∧ ∀ l ∈ lines, startsEdge l = false := by
  induction cs generalizing begins with
  | nil =>
    exact ⟨[], [], rfl, List.prefix_refl _, fun _ ↦ rfl, fun l hl ↦ absurd hl List.not_mem_nil⟩
  | cons c cs ih =>
    simp only [isTidy, Bool.and_eq_true] at h
    obtain ⟨line, lines, hsplit, hstarts, hline, hlines⟩ := ih h.2
    rw [List.splitOn_cons_eq_if_modifyHead, hsplit]
    cases hfeed : c == '\n' with
    | true =>
      -- what was the first line behind the feed is now one of the others
      exact ⟨[], line :: lines, rfl, List.nil_prefix, fun _ ↦ rfl,
        List.forall_mem_cons.2 ⟨hline hfeed, hlines⟩⟩
    | false =>
      have hcons : c :: line <+: c :: cs := by simpa using hstarts
      refine ⟨c :: line, lines, rfl, hcons, fun hbegins ↦ ?_, hlines⟩
      have hedge : startsEdge (c :: cs) = false := by simpa [hbegins] using h.1.2
      exact startsEdge_of_prefix hcons hedge

/-- The lines of a document without edges. -/
theorem split_of_forall {lines current : List (List Char)} {number first : Nat}
    (hlines : ∀ l ∈ lines, startsEdge l = false)
    (hcurrent : (lines.reverse ++ current).all Reader.isEmptyLine = false) :
    Reader.split lines number first false current =
      [(first, (lines.reverse ++ current).reverse)] := by
  induction lines generalizing number current with
  | nil =>
    rw [List.reverse_nil, List.nil_append] at hcurrent ⊢
    rw [Reader.split, hcurrent]
    rfl
  | cons line lines ih =>
    obtain ⟨hline, hlines⟩ := List.forall_mem_cons.1 hlines
    rw [startsEdge, Bool.or_eq_false_iff] at hline
    rw [List.reverse_cons, List.append_assoc] at hcurrent ⊢
    rw [Reader.split, Reader.isMarker, Reader.isMarker, hline.1, hline.2, Bool.false_and,
      if_neg Bool.false_ne_true, if_neg Bool.false_ne_true]
    exact ih hlines hcurrent

theorem isEmptyLine_of_startsToken {line : List Char} (hc : startsToken c) :
    Reader.isEmptyLine (c :: line) = false := by
  rw [Reader.isEmptyLine, List.dropWhile_cons_of_neg (by simp [isSpace_of_startsToken hc])]
  exact ne_hash_of_startsToken hc

theorem exists_splitOn_cons (hc : isBreak c = false) (cs : List Char) :
    ∃ line lines, (c :: cs).splitOn '\n' = (c :: line) :: lines := by
  have hfeed : (c == '\n') = false := beq_eq_false_iff_ne.2 (ne_feed_of_isBreak hc)
  rw [List.splitOn_cons_eq_if_modifyHead, hfeed]
  cases h : cs.splitOn '\n' with
  | nil => exact absurd h (List.splitOn_ne_nil '\n' cs)
  | cons line lines => exact ⟨line, lines, rfl⟩

/-- A tidy text that starts by a token is one document. -/
theorem split_of_isTidy {cs : List Char} (hc : startsToken c) (h : isTidy true (c :: cs)) :
    Reader.split ((c :: cs).splitOn '\n') 0 0 false [] = [(0, (c :: cs).splitOn '\n')] := by
  obtain ⟨line, lines, hsplit, hstarts, hline, hlines⟩ := exists_splitOn_of_isTidy h
  have hall : ∀ l ∈ (c :: cs).splitOn '\n', startsEdge l = false := by
    rw [hsplit]
    exact List.forall_mem_cons.2 ⟨hline rfl, hlines⟩
  have hsome : (((c :: cs).splitOn '\n').reverse ++ []).all Reader.isEmptyLine = false := by
    obtain ⟨first, others, hfirst⟩ := exists_splitOn_cons (isBreak_of_startsToken hc) cs
    rw [List.append_nil, List.all_reverse, hfirst, List.all_cons, isEmptyLine_of_startsToken hc]
    rfl
  rw [split_of_forall hall hsome, List.append_nil, List.reverse_reverse]

end VolumeMigration.Yaml
