import Mathlib.Data.List.Forall2
import VolumeMigration.Shell.Word

/-!
# Splitting a line into words

How a shell splits one line into words and takes the quotes off (`Shell.split?`), written down
from the shell's own rules and without regard to how lines are written here. The splitter answers
only if splitting and unquoting is all that the shell does to the line: it refuses every character
that the shell would act upon, such as an operator, a pattern or a comment outside quotes, or an
expansion outside single quotes. A line that is split is one of which nothing was interpreted.

A line is read by one character after the other (`Reader.step`), and what a stretch of it comes to
does not depend on what surrounds it. Hence `Spells text word`: wherever a word may begin, the text
is read as this word and nothing else. Words that are quoted spell themselves (`spells_quote`), and
so do the texts of a line that are set apart by blanks (`split?_intercalate`).
-/

namespace VolumeMigration.Shell

/-! ### The splitter -/

/-- Where a shell stands in a line. -/
inductive Place where
  | outsideQuotes
  /-- Behind a backslash outside quotes. -/
  | escaped
  | singleQuoted
  | doubleQuoted
  /-- Behind a backslash between double quotes. -/
  | doubleEscaped
  deriving DecidableEq, Repr

/-- Characters that set words apart. -/
def isSeparator (c : Char) : Bool := c == ' ' || c == '\t'

/-- Characters that mean themselves outside quotes wherever they stand in a word: neither
operators nor parts of patterns, expansions and comments, and the same in every locale. -/
def isOrdinary (c : Char) : Bool := c.isAlphanum || "%+,-./:=@]_".toList.contains c

/-- Characters that keep a meaning between double quotes. -/
def isActiveInDouble (c : Char) : Bool := "$`\"\\".toList.contains c

/-- A line that has been read in part. -/
structure Reader where
  place : Place := .outsideQuotes
  /-- The words that have ended. -/
  words : List (List Char) := []
  /-- The word that has begun, if one has. -/
  word : Option (List Char) := none
  deriving DecidableEq, Repr

namespace Reader

/-- Goes on at another place. -/
def goTo (r : Reader) (place : Place) : Reader := { r with place }

/-- Begins a word, unless one has begun already. Quotes do so even if nothing stands in them. -/
def begin (r : Reader) : Reader := { r with word := some (r.word.getD []) }

/-- Takes a character for what it is. -/
def push (r : Reader) (c : Char) : Reader := { r with word := some (r.word.getD [] ++ [c]) }

/-- Ends the word, if one has begun. -/
def finish (r : Reader) : Reader :=
  match r.word with
  | some word => { r with words := r.words ++ [word], word := none }
  | none => r

/-- Reads one character. -/
def step (r : Reader) (c : Char) : Option Reader :=
  if c = '\x00' then none
  else
    match r.place with
    | .outsideQuotes =>
      if isSeparator c then some r.finish
      else if c = '\'' then some (r.begin.goTo .singleQuoted)
      else if c = '"' then some (r.begin.goTo .doubleQuoted)
      else if c = '\\' then some (r.goTo .escaped)
      else if isOrdinary c then some (r.push c)
      else none
    -- a line feed behind a backslash is taken out of the line
    | .escaped =>
      some (if c = '\n' then r.goTo .outsideQuotes else (r.push c).goTo .outsideQuotes)
    | .singleQuoted => some (if c = '\'' then r.goTo .outsideQuotes else r.push c)
    | .doubleQuoted =>
      if c = '"' then some (r.goTo .outsideQuotes)
      else if c = '\\' then some (r.goTo .doubleEscaped)
      else if isActiveInDouble c then none
      else some (r.push c)
    | .doubleEscaped =>
      some <| if c = '\n' then r.goTo .doubleQuoted
        else if isActiveInDouble c then (r.push c).goTo .doubleQuoted
        else ((r.push '\\').push c).goTo .doubleQuoted

/-- Reads some characters. -/
def read (r : Reader) (cs : List Char) : Option Reader := cs.foldlM step r

end Reader

/-- The words of a line of which the shell interprets nothing. -/
def split? (line : String) : Option (List String) :=
  match Reader.read {} line.toList with
  | some r => if r.place = .outsideQuotes then some (r.finish.words.map String.ofList) else none
  | none => none

/-! ### Reading in parts -/

namespace Reader

variable {r : Reader} {c : Char} {cs ds : List Char} {place : Place}

/-- Takes characters for what they are. -/
def pushAll (r : Reader) (cs : List Char) : Reader := cs.foldl push r

@[simp] theorem pushAll_nil (r : Reader) : r.pushAll [] = r := rfl

@[simp] theorem pushAll_cons (r : Reader) (c : Char) (cs : List Char) :
    r.pushAll (c :: cs) = (r.push c).pushAll cs := rfl

theorem pushAll_append (r : Reader) (cs ds : List Char) :
    r.pushAll (cs ++ ds) = (r.pushAll cs).pushAll ds := List.foldl_append

theorem pushAll_eq (hcs : cs ≠ []) :
    r.pushAll cs = { r with word := some (r.word.getD [] ++ cs) } := by
  induction cs generalizing r with
  | nil => exact absurd rfl hcs
  | cons c cs ih =>
    rw [pushAll_cons]
    by_cases hnil : cs = []
    · subst hnil
      rfl
    · rw [ih hnil]
      simp [push]

@[simp] theorem pushAll_begin (hcs : cs ≠ []) : r.begin.pushAll cs = r.pushAll cs := by
  rw [pushAll_eq hcs, pushAll_eq hcs]
  rfl

@[simp] theorem place_push (r : Reader) (c : Char) : (r.push c).place = r.place := rfl

@[simp] theorem place_pushAll (r : Reader) (cs : List Char) : (r.pushAll cs).place = r.place := by
  induction cs generalizing r with
  | nil => rfl
  | cons c cs ih => rw [pushAll_cons, ih, place_push]

@[simp] theorem place_goTo (r : Reader) (place : Place) : (r.goTo place).place = place := rfl

theorem goTo_place (h : r.place = place) : r.goTo place = r := by
  subst h
  rfl

theorem pushAll_goTo (r : Reader) (place : Place) (cs : List Char) :
    (r.goTo place).pushAll cs = (r.pushAll cs).goTo place := by
  induction cs generalizing r with
  | nil => rfl
  | cons c cs ih => exact ih (r.push c)

theorem read_cons (r : Reader) (c : Char) (cs : List Char) :
    r.read (c :: cs) = (r.step c).bind (·.read cs) := rfl

theorem read_append (r : Reader) (cs ds : List Char) :
    r.read (cs ++ ds) = (r.read cs).bind (·.read ds) := List.foldlM_append

/-- What is true of the text of each character is true of a text. -/
theorem read_flatMap {text : Char → List Char}
    (htext : ∀ c ∈ cs, ∀ r : Reader, r.place = place → r.read (text c) = some (r.push c))
    (hr : r.place = place) : r.read (cs.flatMap text) = some (r.pushAll cs) := by
  induction cs generalizing r with
  | nil => rfl
  | cons c cs ih =>
    have hc := htext c List.mem_cons_self r hr
    rw [List.flatMap_cons, read_append, hc, Option.bind_some]
    exact ih (fun d hd ↦ htext d (List.mem_cons_of_mem c hd)) hr

/-- Characters that are each taken for what they are. -/
theorem read_of_step (hstep : ∀ c ∈ cs, ∀ r : Reader, r.place = place → r.step c = some (r.push c))
    (hr : r.place = place) : r.read cs = some (r.pushAll cs) := by
  have hsingle : ∀ c ∈ cs, ∀ r : Reader, r.place = place → r.read [c] = some (r.push c) := by
    intro c hc r hr
    rw [read_cons, hstep c hc r hr]
    rfl
  have hread := read_flatMap hsingle hr
  rwa [List.flatMap_singleton'] at hread

/-! ### Reading chunks -/

theorem step_ordinary (hc : isOrdinary c = true) (hr : r.place = .outsideQuotes) :
    r.step c = some (r.push c) := by
  have hne : ∀ d, isOrdinary d = false → c ≠ d := by
    rintro d hd rfl
    exact absurd (hd.symm.trans hc) Bool.false_ne_true
  have hseparator : isSeparator c = false := by
    simp [isSeparator, hne ' ' (by decide), hne '\t' (by decide)]
  rw [step, if_neg (hne _ (by decide)), hr]
  simp only [hseparator, hc, hne _ (show isOrdinary '\'' = false by decide),
    hne _ (show isOrdinary '"' = false by decide), hne _ (show isOrdinary '\\' = false by decide),
    Bool.false_eq_true, if_false, if_true]

theorem step_separator (r : Reader) (hc : isSeparator c = true) (hr : r.place = .outsideQuotes) :
    r.step c = some r.finish := by
  have hnul : c ≠ '\x00' := by
    rintro rfl
    exact absurd hc (by decide)
  rw [step, if_neg hnul, hr]
  simp only [hc, if_true]

theorem step_singleQuoted (hnul : c ≠ '\x00') (hc : c ≠ '\'') (hr : r.place = .singleQuoted) :
    r.step c = some (r.push c) := by
  rw [step, if_neg hnul, hr]
  simp only [if_neg hc]

theorem step_doubleQuoted (hnul : c ≠ '\x00') (hc : isActiveInDouble c = false)
    (hr : r.place = .doubleQuoted) : r.step c = some (r.push c) := by
  have hne : ∀ d, isActiveInDouble d = true → c ≠ d := by
    rintro d hd rfl
    exact absurd (hc.symm.trans hd) Bool.false_ne_true
  rw [step, if_neg hnul, hr]
  simp only [hc, hne _ (show isActiveInDouble '"' = true by decide),
    hne _ (show isActiveInDouble '\\' = true by decide), Bool.false_eq_true, if_false]

/-- Between quotes a text is read as the characters that it is read as by itself. -/
theorem read_enclosed {quote : Char} {inside : Place} {text : List Char}
    (hopen : ∀ r : Reader, r.place = .outsideQuotes → r.step quote = some (r.begin.goTo inside))
    (hclose : ∀ r : Reader, r.place = inside → r.step quote = some (r.goTo .outsideQuotes))
    (htext : ∀ r : Reader, r.place = inside → r.read text = some (r.pushAll cs))
    (hr : r.place = .outsideQuotes) :
    r.read (quote :: text ++ [quote]) = some (r.begin.pushAll cs) := by
  have hread := htext (r.begin.goTo inside) rfl
  rw [pushAll_goTo] at hread
  have hback : ((r.begin.pushAll cs).goTo inside).goTo .outsideQuotes = r.begin.pushAll cs := by
    have hplace : (r.begin.pushAll cs).place = .outsideQuotes := by
      rw [place_pushAll]
      exact hr
    exact goTo_place hplace
  rw [List.cons_append, read_cons, hopen r hr, Option.bind_some, read_append, hread,
    Option.bind_some, read_cons, hclose _ rfl, hback]
  rfl

theorem read_singleQuoted (hcs : ∀ c ∈ cs, c ≠ '\x00' ∧ c ≠ '\'') (hr : r.place = .outsideQuotes) :
    r.read ('\'' :: cs ++ ['\'']) = some (r.begin.pushAll cs) := by
  have htext : ∀ r : Reader, r.place = .singleQuoted → r.read cs = some (r.pushAll cs) := fun _ ↦
    read_of_step fun c hc _ hr ↦ step_singleQuoted (hcs c hc).1 (hcs c hc).2 hr
  refine read_enclosed (fun r hr ↦ ?_) (fun r hr ↦ ?_) htext hr
  · rw [step, hr]
    rfl
  · rw [step, hr]
    rfl

/-- The text of a character between double quotes, with a backslash where it is needed. -/
theorem read_doubleEscaped (hnul : c ≠ '\x00') (hr : r.place = .doubleQuoted) :
    r.read (if isActiveInDouble c then ['\\', c] else [c]) = some (r.push c) := by
  split
  next hactive =>
    have hnewline : c ≠ '\n' := by
      rintro rfl
      exact absurd hactive (by decide)
    have hbackslash : r.step '\\' = some (r.goTo .doubleEscaped) := by
      rw [step, hr]
      rfl
    have hchar : (r.goTo .doubleEscaped).step c = some (r.push c) := by
      rw [step, if_neg hnul, place_goTo]
      simp only [if_neg hnewline, hactive, if_true]
      have hback : (r.push c).goTo .doubleQuoted = r.push c := goTo_place hr
      exact congrArg some hback
    rw [read_cons, hbackslash, Option.bind_some, read_cons, hchar]
    rfl
  next hactive =>
    rw [read_cons, step_doubleQuoted hnul (Bool.not_eq_true _ ▸ hactive) hr]
    rfl

theorem read_doubleQuoted {text : List Char}
    (htext : ∀ r : Reader, r.place = .doubleQuoted → r.read text = some (r.pushAll cs))
    (hr : r.place = .outsideQuotes) :
    r.read ('"' :: text ++ ['"']) = some (r.begin.pushAll cs) := by
  refine read_enclosed (fun r hr ↦ ?_) (fun r hr ↦ ?_) htext hr
  · rw [step, hr]
    rfl
  · rw [step, hr]
    rfl

end Reader

/-! ### Words in chunks -/

namespace Style

/-- Whether a chunk of this style can hold a character. -/
def Holds : Style → Char → Prop
  | unquoted, c => isOrdinary c = true
  | singleQuoted, c => c ≠ '\''
  | doubleQuoted, _ => True

theorem holds_of_admits {style : Style} {c : Char} (h : style.admits c = true) : style.Holds c := by
  cases style with
  | unquoted =>
    have hplain : c.isAlphanum = true ∨ c ∈ "+-./:@]_".toList := by
      simpa only [admits, isPlain, Bool.or_eq_true, List.contains_iff_mem] using h
    show (c.isAlphanum || "%+,-./:=@]_".toList.contains c) = true
    rw [Bool.or_eq_true, List.contains_iff_mem]
    refine hplain.imp_right fun hmem ↦ ?_
    have hsubset : "+-./:@]_".toList ⊆ "%+,-./:=@]_".toList := by decide
    exact hsubset hmem
  | singleQuoted =>
    rintro rfl
    exact absurd h (by decide)
  | doubleQuoted => trivial

variable {r : Reader} {style : Style} {cs : List Char}

/-- A chunk is read as its characters. -/
theorem read_write (hcs : cs ≠ []) (hholds : ∀ c ∈ cs, c ≠ '\x00' ∧ style.Holds c)
    (hr : r.place = .outsideQuotes) : r.read (style.write cs) = some (r.pushAll cs) := by
  cases style with
  | unquoted =>
    have hstep : ∀ c ∈ cs, ∀ r : Reader, r.place = .outsideQuotes → r.step c = some (r.push c) :=
      fun c hc _ hr ↦ Reader.step_ordinary (hholds c hc).2 hr
    exact Reader.read_of_step hstep hr
  | singleQuoted =>
    rw [write, Reader.read_singleQuoted hholds hr, Reader.pushAll_begin hcs]
  | doubleQuoted =>
    have htext : ∀ r : Reader, r.place = .doubleQuoted →
        r.read (cs.flatMap fun c ↦ if isEscaped c then ['\\', c] else [c]) =
          some (r.pushAll cs) := fun r hr ↦
      Reader.read_flatMap (fun c hc _ hr ↦ Reader.read_doubleEscaped (hholds c hc).1 hr) hr
    rw [write, Reader.read_doubleQuoted htext hr, Reader.pushAll_begin hcs]

/-- Chunks that stand directly after one another are read as all their characters. -/
theorem read_chunks {chunks : List (Style × List Char)} (hchunks : ∀ chunk ∈ chunks,
      chunk.2 ≠ [] ∧ ∀ c ∈ chunk.2, c ≠ '\x00' ∧ chunk.1.Holds c)
    (hr : r.place = .outsideQuotes) :
    r.read (chunks.flatMap fun (style, cs) ↦ style.write cs) =
      some (r.pushAll (chunks.flatMap (·.2))) := by
  induction chunks generalizing r with
  | nil => rfl
  | cons chunk chunks ih =>
    obtain ⟨hne, hholds⟩ := hchunks chunk List.mem_cons_self
    have hrest := ih (r := r.pushAll chunk.2)
      (fun other ho ↦ hchunks other (List.mem_cons_of_mem chunk ho))
      ((Reader.place_pushAll r chunk.2).trans hr)
    rw [List.flatMap_cons, Reader.read_append, read_write hne hholds hr, Option.bind_some, hrest,
      List.flatMap_cons, Reader.pushAll_append]

end Style

/-! ### How a word is cut -/

/-- The styles that are left for a chunk admit all that was added to it. -/
theorem admits_of_mem_continueChunk {styles : Styles} {cs : List Char} {style : Style}
    (h : style ∈ (continueChunk styles cs).2.1) :
    style ∈ styles ∧ ∀ c ∈ (continueChunk styles cs).1, style.admits c = true := by
  induction cs generalizing styles with
  | nil => exact ⟨h, List.forall_mem_nil _⟩
  | cons c cs ih =>
    rw [continueChunk] at h ⊢
    split at h
    next => exact ⟨h, List.forall_mem_nil _⟩
    next first others hfilter =>
      obtain ⟨hmem, hadmits⟩ := ih h
      rw [← hfilter, List.mem_filter] at hmem
      refine ⟨hmem.1, fun d hd ↦ ?_⟩
      rcases List.mem_cons.mp hd with rfl | hd
      · exact hmem.2
      · exact hadmits d hd

theorem continueChunk_styles_ne_nil {styles : Styles} (hstyles : styles ≠ []) (cs : List Char) :
    (continueChunk styles cs).2.1 ≠ [] := by
  induction cs generalizing styles with
  | nil => exact hstyles
  | cons c cs ih =>
    rw [continueChunk]
    split
    next => exact hstyles
    next => exact ih (List.cons_ne_nil _ _)

/-- Nothing gets lost where a chunk ends. -/
theorem continueChunk_append (styles : Styles) (cs : List Char) :
    (continueChunk styles cs).1 ++ (continueChunk styles cs).2.2 = cs := by
  induction cs generalizing styles with
  | nil => rfl
  | cons c cs ih =>
    rw [continueChunk]
    split
    next => rfl
    next => exact congrArg (c :: ·) (ih _)

theorem openingStyles_ne_nil (c : Char) : openingStyles c ≠ [] := by
  rw [openingStyles]
  split
  next => exact List.cons_ne_nil _ _
  next hcaret =>
    -- what single quotes do not hold is held by double quotes
    have hsome : Style.admits .singleQuoted c = true ∨ Style.admits .doubleQuoted c = true := by
      by_cases h : c = '\'' ∨ c = '\\'
      · rcases h with rfl | rfl
        · exact Or.inr (by decide)
        · exact Or.inr (by decide)
      · refine Or.inl ?_
        simp only [not_or] at h
        simp [Style.admits, h, hcaret]
    rcases hsome with h | h
    · exact List.ne_nil_of_mem (List.mem_filter.mpr ⟨by decide, h⟩)
    · exact List.ne_nil_of_mem (List.mem_filter.mpr ⟨by decide, h⟩)

theorem holds_of_mem_openingStyles {c : Char} {style : Style} (h : style ∈ openingStyles c) :
    style.Holds c := by
  rw [openingStyles] at h
  split at h
  next hcaret =>
    rw [List.mem_singleton.mp h, hcaret]
    exact (by decide : '^' ≠ '\'')
  next => exact Style.holds_of_admits (List.mem_filter.mp h).2

/-- The chunks of a word are the word, and the style of each one can hold it. -/
theorem chunks_spec (cs : List Char) : (chunks cs).flatMap (·.2) = cs ∧
    ∀ chunk ∈ chunks cs, chunk.2 ≠ [] ∧ ∀ c ∈ chunk.2, chunk.1.Holds c := by
  induction cs using chunks.induct with
  | case1 =>
    rw [chunks]
    exact ⟨rfl, nofun⟩
  | case2 c cs found ih =>
    rw [chunks]
    refine ⟨?_, fun chunk hchunk ↦ ?_⟩
    · rw [List.flatMap_cons, ih.1, List.cons_append, continueChunk_append]
    · rcases List.mem_cons.mp hchunk with rfl | hchunk
      · have hstyle : found.2.1.headD .doubleQuoted ∈ found.2.1 := by
          obtain ⟨style, others, hcons⟩ := List.exists_cons_of_ne_nil
            (continueChunk_styles_ne_nil (openingStyles_ne_nil c) cs)
          rw [show found.2.1 = style :: others from hcons]
          exact List.mem_cons_self
        obtain ⟨hopening, hadmits⟩ := admits_of_mem_continueChunk hstyle
        refine ⟨List.cons_ne_nil _ _, fun d hd ↦ ?_⟩
        rcases List.mem_cons.mp hd with rfl | hd
        · exact holds_of_mem_openingStyles hopening
        · exact Style.holds_of_admits (hadmits d hd)
      · exact ih.2 chunk hchunk

/-! ### Texts of words -/

/-- Whether a text is read as this word wherever a word may begin. -/
def Spells (text word : String) : Prop :=
  ∀ r : Reader, r.place = .outsideQuotes → r.word = none →
    r.read text.toList = some { r with word := some word.toList }

/-- Whether a text has only characters that mean themselves outside quotes, and at least one. -/
def IsOrdinaryWord (word : String) : Prop := word ≠ "" ∧ word.toList.all isOrdinary = true

instance (word : String) : Decidable (IsOrdinaryWord word) := inferInstanceAs (Decidable (_ ∧ _))

/-- Whether a text has only characters that mean themselves between double quotes. -/
def IsPassive (text : String) : Prop :=
  ∀ c ∈ text.toList, c ≠ '\x00' ∧ isActiveInDouble c = false

theorem IsOrdinaryWord.isPassive {word : String} (h : IsOrdinaryWord word) : IsPassive word := by
  intro c hc
  have hordinary : isOrdinary c = true := List.all_eq_true.mp h.2 c hc
  constructor
  · rintro rfl
    exact absurd hordinary (by decide)
  · by_contra hactive
    rw [Bool.not_eq_false, isActiveInDouble, List.contains_iff_mem] at hactive
    have hnot : ∀ d ∈ "$`\"\\".toList, isOrdinary d = false :=
      List.forall_iff_forall_mem.mp (by decide)
    exact absurd ((hnot c hactive).symm.trans hordinary) Bool.false_ne_true

theorem isPassive_intercalate {texts : List String} (h : ∀ text ∈ texts, IsPassive text) :
    IsPassive (" ".intercalate texts) := by
  induction texts with
  | nil => exact nofun
  | cons text texts ih =>
    have hfirst := h text List.mem_cons_self
    have hrest := ih fun other ho ↦ h other (List.mem_cons_of_mem text ho)
    cases texts with
    | nil => rwa [String.intercalate_singleton]
    | cons next texts =>
      intro c hc
      rw [String.intercalate_cons_cons, String.toList_append, String.toList_append,
        List.append_assoc, List.mem_append, List.mem_append] at hc
      rcases hc with hc | hc | hc
      · exact hfirst c hc
      · obtain rfl : c = ' ' := by simpa using hc
        decide
      · exact hrest c hc

section

variable {text word line : String}

/-- A word can be written unless it holds a NUL. -/
theorem quote?_eq_none_iff : quote? word = none ↔ '\x00' ∈ word.toList := by
  rw [quote?]
  split
  next h => simpa using h
  next h =>
    have hnul : '\x00' ∉ word.toList := by simpa using h
    split
    · simp [hnul]
    · simp [hnul]

/-- A written word is read as the word, whatever the word is. -/
theorem spells_quote (h : quote? word = some text) : Spells text word := by
  have hnul : '\x00' ∉ word.toList := by
    rw [← quote?_eq_none_iff, h]
    exact nofun
  intro r hr hword
  rw [quote?, if_neg (by simpa using hnul)] at h
  split at h
  next hempty =>
    obtain rfl : word = "" := by simpa using hempty
    cases h
    have hnone : ∀ c ∈ ([] : List Char), c ≠ '\x00' ∧ c ≠ '\'' := nofun
    have hread := Reader.read_singleQuoted hnone hr
    rw [Reader.pushAll_nil, Reader.begin, hword] at hread
    exact hread
  next hempty =>
    cases h
    obtain ⟨hjoin, hchunks⟩ := chunks_spec word.toList
    have hread := Style.read_chunks (fun chunk hchunk ↦ ⟨(hchunks chunk hchunk).1, fun c hc ↦
      ⟨?_, (hchunks chunk hchunk).2 c hc⟩⟩) hr
    · rw [hjoin] at hread
      have hne : word.toList ≠ [] := by simpa using hempty
      rw [String.toList_ofList, hread, Reader.pushAll_eq hne, hword]
      rfl
    · rintro rfl
      have hmem : '\x00' ∈ (chunks word.toList).flatMap (·.2) :=
        List.mem_flatMap.mpr ⟨chunk, hchunk, hc⟩
      exact hnul (hjoin ▸ hmem)

/-- A word of characters that mean themselves may stand as it is. -/
theorem spells_self (h : IsOrdinaryWord word) : Spells word word := by
  intro r hr hword
  have hread := Reader.read_of_step
    (fun c hc r hr ↦ Reader.step_ordinary (List.all_eq_true.mp h.2 c hc) hr) hr
  rw [hread, Reader.pushAll_eq (by simpa using h.1), hword]
  rfl

/-- A passive text may stand between double quotes. -/
theorem spells_doubleQuoted (h : IsPassive word) :
    Spells ("\"" ++ word ++ "\"") word := by
  intro r hr hword
  have htext : ∀ r : Reader, r.place = .doubleQuoted →
      r.read word.toList = some (r.pushAll word.toList) := fun r hr ↦
    Reader.read_of_step (fun c hc r hr ↦ Reader.step_doubleQuoted (h c hc).1 (h c hc).2 hr) hr
  have hread := Reader.read_doubleQuoted htext hr
  have hlist : ("\"" ++ word ++ "\"").toList = '"' :: word.toList ++ ['"'] := by simp
  rw [hlist, hread]
  by_cases hne : word.toList = []
  · rw [hne, Reader.pushAll_nil, Reader.begin, hword]
    rfl
  · rw [Reader.pushAll_begin hne, Reader.pushAll_eq hne, hword]
    rfl

end

/-- Texts that are set apart by blanks are read as their words, one after the other. -/
theorem read_intercalate {texts words : List String} (h : List.Forall₂ Spells texts words)
    (r : Reader) (hr : r.place = .outsideQuotes) (hword : r.word = none) :
    ∃ s, r.read (" ".intercalate texts).toList = some s ∧ s.place = .outsideQuotes ∧
      s.finish.words = r.words ++ words.map String.toList := by
  induction h generalizing r with
  | nil => exact ⟨r, rfl, hr, by rw [Reader.finish, hword, List.map_nil, List.append_nil]⟩
  | @cons text word texts words htext hrest ih =>
    let first : Reader := { r with word := some word.toList }
    have hfirst : r.read text.toList = some first := htext r hr hword
    cases hrest with
    | nil =>
      refine ⟨first, ?_, hr, rfl⟩
      rw [String.toList_intercalate, List.map_cons, List.map_nil, List.intercalate_singleton,
        hfirst]
    | @cons text' word' texts words htext' hrest =>
      -- the blank behind the first word ends it, and the others follow
      obtain ⟨s, hs, hplace, hwords⟩ := ih first.finish hr rfl
      refine ⟨s, ?_, hplace, ?_⟩
      · rw [String.intercalate_cons_cons, String.append_assoc, String.toList_append,
          String.toList_append, Reader.read_append, hfirst, Option.bind_some, Reader.read_append]
        have hblank : first.read " ".toList = some first.finish := by
          show (first.step ' ').bind (·.read []) = _
          rw [first.step_separator (by decide) hr]
          rfl
        rw [hblank, Option.bind_some, hs]
      · have hended : first.finish.words = r.words ++ [word.toList] := rfl
        rw [hwords, hended, List.append_assoc]
        rfl

/-- Words that may each stand as they are. -/
theorem forall₂_spells_self {words : List String} (h : ∀ word ∈ words, IsOrdinaryWord word) :
    List.Forall₂ Spells words words :=
  List.forall₂_same.mpr fun word hword ↦ spells_self (h word hword)

/-- A line of texts that are set apart by blanks is split into their words. -/
theorem split?_intercalate {texts words : List String} (h : List.Forall₂ Spells texts words) :
    split? (" ".intercalate texts) = some words := by
  obtain ⟨s, hread, hplace, hwords⟩ := read_intercalate h {} rfl rfl
  have hlist : s.finish.words.map String.ofList = words := by
    rw [hwords, List.nil_append, List.map_map]
    exact (List.map_congr_left fun w _ ↦ String.ofList_toList).trans (List.map_id words)
  rw [split?, hread]
  simp only [hplace, if_true, hlist]

end VolumeMigration.Shell
