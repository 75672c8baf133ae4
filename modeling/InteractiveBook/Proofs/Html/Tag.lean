import InteractiveBook.Html.Tag
import InteractiveBook.Proofs.Text.Lines
import InteractiveBook.Proofs.Text.Trimming
import Mathlib.Data.List.Forall2
import Mathlib.Data.List.TakeWhile

/-!
# Tags in a text

A text is read from the left. Where a tag of the wanted kind starts, the whole tag is taken, and
anywhere else a single character. What is replaced are the tags that are found in this way, and
everything else stays. No tag begins in what stays that did not begin there before, so that tags
that are replaced by tags are the tags of the result.
-/

namespace InteractiveBook.Html

/-! ### Names in letters of either case -/

/-- A letter is written small or as a capital, and the letter s also long. -/
theorem isLetter_iff {small c : Char} :
    isLetter small c = true ↔ c = small ∨ c = small.toUpper ∨ (small = 's' ∧ c = 'ſ') := by
  simp only [isLetter, Bool.or_eq_true, Bool.and_eq_true, beq_iff_eq, or_assoc]

/-- Letters that spell a name, each of them in either case. -/
def Spells (name letters : List Char) : Prop :=
  List.Forall₂ (fun small c => isLetter small c = true) name letters

/-- A letter that is written is one of the name in either case. -/
theorem Spells.exists_of_mem {name letters : List Char} (h : Spells name letters) {c : Char}
    (hc : c ∈ letters) : ∃ small ∈ name, isLetter small c = true := by
  induction h with
  | nil => cases hc
  | cons hletter _ ih =>
    rcases List.mem_cons.1 hc with rfl | hc
    · exact ⟨_, List.mem_cons_self, hletter⟩
    · obtain ⟨small, hsmall, hfound⟩ := ih hc
      exact ⟨small, List.mem_cons_of_mem _ hsmall, hfound⟩

/-- What follows letters that spell a name is what comes after the name. -/
theorem afterName?_append {name letters : List Char} (h : Spells name letters) (rest : List Char) :
    afterName? name (letters ++ rest) = some rest := by
  induction h with
  | nil => rfl
  | cons hc _ ih => rw [List.cons_append, afterName?, if_pos hc, ih]

/-- A list in which something comes after a name starts with letters that spell the name. -/
theorem afterName?_eq_some_iff {name cs rest : List Char} :
    afterName? name cs = some rest ↔ ∃ letters, Spells name letters ∧ cs = letters ++ rest := by
  constructor
  · intro h
    induction name generalizing cs with
    | nil => exact ⟨[], .nil, Option.some.inj h⟩
    | cons small name ih =>
      cases cs with
      | nil => cases h
      | cons c cs =>
        rw [afterName?] at h
        split at h
        · next hc =>
          obtain ⟨letters, hletters, rfl⟩ := ih h
          exact ⟨c :: letters, .cons hc hletters, rfl⟩
        · cases h
  · rintro ⟨letters, hletters, rfl⟩
    exact afterName?_append hletters rest

/-! ### Tags -/

/-- A tag is one of a kind: its sign is followed by the name of the kind, and its stretch is one
that may follow the name. -/
structure TagMatch.IsOf (m : TagMatch) (kind : TagKind) : Prop where
  /-- The sign and the name. -/
  opening : ∃ letters, m.opening = '<' :: letters ∧ Spells kind.name letters
  /-- The stretch ends before the closing sign. -/
  closed : '>' ∉ m.inside
  /-- The stretch may follow the name. -/
  admitted : kind.admits m.inside = true

/-- A tag takes as many characters as are written of it. -/
theorem TagMatch.length_written (m : TagMatch) : m.written.length = m.length := by
  simp only [written, length, List.length_append, List.length_singleton]

/-- A tag that is of a kind is found where it is written. -/
theorem TagMatch.IsOf.tagAt? {kind : TagKind} {m : TagMatch} (h : m.IsOf kind)
    (rest : List Char) : tagAt? kind (m.written ++ rest) = some m := by
  obtain ⟨letters, hopening, hletters⟩ := h.opening
  obtain ⟨opening, inside⟩ := m
  subst hopening
  have hwritten : (TagMatch.mk ('<' :: letters) inside).written ++ rest =
      '<' :: (letters ++ (inside ++ '>' :: rest)) := by
    simp only [written, List.cons_append, List.append_assoc, List.nil_append]
  have hlength : letters.length = kind.name.length := hletters.length_eq.symm
  have hadmits : kind.admits inside = true := h.admitted
  rw [hwritten, Html.tagAt?]
  dsimp only
  rw [afterName?_append hletters]
  dsimp only
  rw [Text.takeWhile_closed h.closed, hadmits, List.take_succ_cons, ← hlength, List.take_left]
  simp

/-- A tag is found exactly where one of the kind is written. -/
theorem tagAt?_eq_some_iff {kind : TagKind} {cs : List Char} {m : TagMatch} :
    tagAt? kind cs = some m ↔ m.IsOf kind ∧ ∃ rest, cs = m.written ++ rest := by
  constructor
  · intro h
    unfold tagAt? at h
    split at h
    · next rest =>
      split at h
      · next behind hbehind =>
        obtain ⟨letters, hletters, rfl⟩ := afterName?_eq_some_iff.1 hbehind
        dsimp only at h
        split at h
        · next hcond =>
          rw [Bool.and_eq_true, decide_eq_true_eq] at hcond
          obtain ⟨hadmits, hshort⟩ := hcond
          have hlength : kind.name.length = letters.length := hletters.length_eq
          obtain ⟨after, hafter⟩ := Text.exists_closed_of_lt hshort
          obtain rfl := Option.some.inj h
          refine ⟨⟨⟨letters, ?_, hletters⟩, ?_, hadmits⟩, after, ?_⟩
          · rw [List.take_succ_cons, hlength, List.take_left]
          · intro hmem
            simpa using List.mem_takeWhile_imp hmem
          · rw [TagMatch.written, List.take_succ_cons, hlength, List.take_left]
            conv_lhs => rw [hafter]
            simp
        · cases h
      · cases h
    · cases h
  · rintro ⟨hm, rest, rfl⟩
    exact hm.tagAt? rest

/-! ### Attributes in quotation marks -/

/-- An attribute as it is written: the letters of its name, an equals sign with white space on
either side, and the value in quotation marks. -/
def quotedAttribute (letters space space' value : List Char) : List Char :=
  letters ++ space ++ '=' :: space' ++ '"' :: value ++ ['"']

/-- An attribute in front of a text. -/
theorem quotedAttribute_append (letters space space' value rest : List Char) :
    quotedAttribute letters space space' value ++ rest =
      letters ++ (space ++ '=' :: (space' ++ '"' :: (value ++ '"' :: rest))) := by
  simp [quotedAttribute]

/-- An attribute is found at the start of a list exactly where one of the name is written. -/
theorem attributeAt?_eq_some_iff {name cs value after : List Char} :
    attributeAt? name cs = some (value, after) ↔ ∃ letters space space', Spells name letters ∧
      (∀ c ∈ space, Text.isWhiteSpace c = true) ∧ (∀ c ∈ space', Text.isWhiteSpace c = true) ∧
      '"' ∉ value ∧ cs = quotedAttribute letters space space' value ++ after := by
  constructor
  · intro h
    unfold attributeAt? at h
    split at h
    · cases h
    · next behind hbehind =>
      obtain ⟨letters, hletters, rfl⟩ := afterName?_eq_some_iff.1 hbehind
      split at h
      · next rest heq =>
        obtain ⟨space, hspace, rfl⟩ := Text.exists_space_of_trimStartChars heq
        split at h
        · next quoted hmark =>
          obtain ⟨space', hspace', rfl⟩ := Text.exists_space_of_trimStartChars hmark
          split at h
          · next closed hclosed =>
            obtain ⟨rfl, rfl⟩ := Prod.mk.inj (Option.some.inj h)
            have hvalue := List.takeWhile_append_dropWhile (p := (· ≠ '"')) (l := quoted)
            refine ⟨letters, space, space', hletters, hspace, hspace', ?_, ?_⟩
            · intro hmem
              simpa using List.mem_takeWhile_imp hmem
            · rw [hclosed] at hvalue
              conv_lhs => rw [← hvalue]
              simp [quotedAttribute]
          · cases h
        · cases h
      · cases h
  · rintro ⟨letters, space, space', hletters, hspace, hspace', hvalue, rfl⟩
    have hbefore : (value ++ '"' :: after).takeWhile (· ≠ '"') = value :=
      Text.takeWhile_closed hvalue after
    have hbehind : (value ++ '"' :: after).dropWhile (· ≠ '"') = '"' :: after := by
      have hsplit := List.takeWhile_append_dropWhile (p := (· ≠ '"')) (l := value ++ '"' :: after)
      rwa [hbefore, List.append_cancel_left_eq] at hsplit
    have hequals := Text.trimStartChars_append hspace (by decide : Text.isWhiteSpace '=' = false)
    have hmark := Text.trimStartChars_append hspace' (by decide : Text.isWhiteSpace '"' = false)
    rw [quotedAttribute_append]
    simp only [attributeAt?, afterName?_append hletters, hequals, hmark, hbehind, hbefore]

/-- An attribute that is found somewhere in a list is found at the start of what follows the text
before it. -/
theorem attributeAt?_of_findAttribute? {name cs : List Char} {inWord : Bool} {a : AttributeMatch}
    (h : findAttribute? name inWord cs = some a) :
    ∃ rest, cs = a.before ++ rest ∧ attributeAt? name rest = some (a.value, a.after) := by
  induction cs generalizing inWord a with
  | nil => cases h
  | cons c cs ih =>
    rw [findAttribute?] at h
    split at h
    · next value after hfound =>
      obtain rfl := Option.some.inj h
      refine ⟨c :: cs, rfl, ?_⟩
      cases inWord with
      | true => cases hfound
      | false => exact hfound
    · obtain ⟨later, hlater, rfl⟩ := Option.map_eq_some_iff.1 h
      obtain ⟨rest, rfl, hrest⟩ := ih hlater
      exact ⟨rest, rfl, hrest⟩

/-! ### Pieces of a text -/

/-- A piece of a text: a tag, or a character at which none starts. -/
inductive Piece where
  /-- A character. -/
  | plain (c : Char)
  /-- A tag. -/
  | tag (m : TagMatch)

namespace Piece

/-- What a piece is replaced with. -/
def replaced (replacement : TagMatch → List Char) : Piece → List Char
  | plain c => [c]
  | tag m => replacement m

/-- The tag that a piece is, if it is one. -/
def tag? : Piece → Option TagMatch
  | plain _ => none
  | tag m => some m

end Piece

/-- The pieces of a text. The number says how many characters of a tag are still to be passed
over. -/
def pieces (kind : TagKind) : Nat → List Char → List Piece
  | _, [] => []
  | skip + 1, _ :: cs => pieces kind skip cs
  | 0, c :: cs =>
    match tagAt? kind (c :: cs) with
    | some m => .tag m :: pieces kind (m.length - 1) cs
    | none => .plain c :: pieces kind 0 cs

/-- The tags of a kind in a text, from the left and without overlap. -/
def tagsIn (kind : TagKind) (cs : List Char) : List TagMatch :=
  (pieces kind 0 cs).filterMap Piece.tag?

variable {kind : TagKind}

/-- Characters that are passed over have no pieces. -/
theorem pieces_drop (kind : TagKind) (n : Nat) (cs : List Char) :
    pieces kind n cs = pieces kind 0 (cs.drop n) := by
  induction cs generalizing n with
  | nil => cases n <;> rfl
  | cons c cs ih =>
    cases n with
    | zero => rfl
    | succ n => rw [pieces, ih, List.drop_succ_cons]

/-- A tag is one piece, and the rest is read from behind it. -/
theorem pieces_tag {m : TagMatch} (h : m.IsOf kind) (rest : List Char) :
    pieces kind 0 (m.written ++ rest) = .tag m :: pieces kind 0 rest := by
  have hfound := h.tagAt? rest
  obtain ⟨letters, hopening, -⟩ := h.opening
  have hcons : m.written ++ rest = '<' :: (letters ++ m.inside ++ ['>'] ++ rest) := by
    simp only [TagMatch.written, hopening, List.cons_append]
  have hlength : m.length - 1 = (letters ++ m.inside ++ ['>']).length := by
    rw [← m.length_written, TagMatch.written, hopening]
    rfl
  rw [hcons] at hfound ⊢
  rw [pieces, hfound]
  dsimp only
  rw [pieces_drop, hlength, List.drop_left]

/-- A character at which no tag starts is one piece. -/
theorem pieces_plain {c : Char} {cs : List Char} (h : tagAt? kind (c :: cs) = none) :
    pieces kind 0 (c :: cs) = .plain c :: pieces kind 0 cs := by
  rw [pieces, h]

/-- What holds of the empty text and is kept when a tag or a character at which none starts is put
in front holds of every text. -/
theorem pieces_induction (kind : TagKind) {motive : List Char → Prop} (nil : motive [])
    (tag : ∀ (m : TagMatch) rest, m.IsOf kind → motive rest → motive (m.written ++ rest))
    (plain : ∀ c rest, tagAt? kind (c :: rest) = none → motive rest → motive (c :: rest))
    (cs : List Char) : motive cs := by
  induction hn : cs.length using Nat.strongRecOn generalizing cs with
  | ind n ih =>
    cases cs with
    | nil => exact nil
    | cons c rest =>
      cases hfound : tagAt? kind (c :: rest) with
      | none => exact plain c rest hfound (ih _ (by rw [← hn, List.length_cons]; omega) rest rfl)
      | some m =>
        obtain ⟨hm, behind, hsplit⟩ := tagAt?_eq_some_iff.1 hfound
        have hless : behind.length < n := by
          rw [← hn, hsplit, List.length_append, m.length_written, TagMatch.length]
          omega
        rw [hsplit]
        exact tag m behind hm (ih _ hless behind rfl)

/-- Replacing the tags of a text replaces each piece that is a tag. -/
theorem replaceTags_eq (kind : TagKind) (replacement : TagMatch → List Char) (n : Nat)
    (cs : List Char) : replaceTags kind replacement n cs =
      (pieces kind n cs).flatMap (Piece.replaced replacement) := by
  induction cs generalizing n with
  | nil => cases n <;> rfl
  | cons c cs ih =>
    cases n with
    | succ n => rw [replaceTags, pieces, ih]
    | zero =>
      rw [replaceTags, pieces]
      cases tagAt? kind (c :: cs) with
      | none => dsimp only; rw [ih, List.flatMap_cons]; rfl
      | some m => dsimp only; rw [ih, List.flatMap_cons]; rfl

variable {replacement : TagMatch → List Char}

/-- A tag in front of a text is replaced. -/
theorem replaceTags_tag {m : TagMatch} (h : m.IsOf kind) (rest : List Char) :
    replaceTags kind replacement 0 (m.written ++ rest) =
      replacement m ++ replaceTags kind replacement 0 rest := by
  rw [replaceTags_eq, replaceTags_eq, pieces_tag h, List.flatMap_cons, Piece.replaced]

/-- A character in front of a text at which no tag starts stays. -/
theorem replaceTags_plain {c : Char} {cs : List Char} (h : tagAt? kind (c :: cs) = none) :
    replaceTags kind replacement 0 (c :: cs) = c :: replaceTags kind replacement 0 cs := by
  rw [replaceTags_eq, replaceTags_eq, pieces_plain h, List.flatMap_cons]
  rfl

/-- The tags of a text that begins with a tag. -/
theorem tagsIn_tag {m : TagMatch} (h : m.IsOf kind) (rest : List Char) :
    tagsIn kind (m.written ++ rest) = m :: tagsIn kind rest := by
  rw [tagsIn, pieces_tag h]
  rfl

/-- The tags of a text that begins with a character at which none starts. -/
theorem tagsIn_plain {c : Char} {cs : List Char} (h : tagAt? kind (c :: cs) = none) :
    tagsIn kind (c :: cs) = tagsIn kind cs := by
  rw [tagsIn, pieces_plain h]
  rfl

/-! ### What begins after replacing -/

/-- A kind is known from the start of a tag: no letter of the name is written as an opening sign,
and the first character behind the name says whether the stretch may follow. -/
structure TagKind.IsPlain (kind : TagKind) : Prop where
  /-- The letters of the name. -/
  name : ∀ small ∈ kind.name, isLetter small '<' = false
  /-- The stretches that may follow. -/
  admits : ∀ {cs ds : List Char}, cs.head? = ds.head? → kind.admits cs = kind.admits ds

/-- Image tags are known from their start. -/
theorem isPlain_image : TagKind.image.IsPlain where
  name := by simp [TagKind.image, isLetter]
  admits {cs ds} h := by cases cs <;> cases ds <;> simp_all [TagKind.image]

/-- Table tags are known from their start. -/
theorem isPlain_table : TagKind.table.IsPlain where
  name := by simp [TagKind.table, isLetter]
  admits {cs ds} h := by cases cs <;> cases ds <;> simp_all [TagKind.table]

/-- Letters that spell the name of a kind have no opening sign. -/
theorem TagKind.IsPlain.not_mem_letters (hkind : kind.IsPlain) {letters : List Char}
    (h : Spells kind.name letters) : '<' ∉ letters := by
  intro hmem
  obtain ⟨small, hsmall, hletter⟩ := h.exists_of_mem hmem
  rw [hkind.name small hsmall] at hletter
  cases hletter

/-- Replacing tags by what begins with an opening sign leaves the first character. -/
theorem head?_replaceTags (hsign : ∀ m, m.IsOf kind → (replacement m).head? = some '<')
    (cs : List Char) : (replaceTags kind replacement 0 cs).head? = cs.head? := by
  induction cs using pieces_induction kind with
  | nil => rfl
  | tag m rest hm _ =>
    obtain ⟨letters, hopening, -⟩ := hm.opening
    rw [replaceTags_tag hm, List.head?_append, hsign m hm, TagMatch.written, hopening]
    rfl
  | plain c rest hnone _ => rw [replaceTags_plain hnone, List.head?_cons, List.head?_cons]

/-- Letters that come first after replacing came first before. -/
theorem replaceTags_eq_append (hsign : ∀ m, m.IsOf kind → (replacement m).head? = some '<')
    {letters : List Char} (hletters : '<' ∉ letters) {cs rest : List Char}
    (h : replaceTags kind replacement 0 cs = letters ++ rest) :
    ∃ behind, cs = letters ++ behind ∧ replaceTags kind replacement 0 behind = rest := by
  induction letters generalizing cs with
  | nil => exact ⟨cs, rfl, h⟩
  | cons c letters ih =>
    have hhead := head?_replaceTags hsign cs
    rw [h, List.cons_append, List.head?_cons] at hhead
    obtain ⟨behind, rfl⟩ := List.head?_eq_some_iff.1 hhead.symm
    have hnone : tagAt? kind (c :: behind) = none := by
      unfold tagAt?
      split
      · next heq => exact absurd (List.mem_cons.2 (.inl (List.cons.inj heq).1.symm)) hletters
      · rfl
    rw [replaceTags_plain hnone, List.cons_append] at h
    obtain ⟨more, rfl, hmore⟩ :=
      ih (List.ne_and_not_mem_of_not_mem_cons hletters).2 (List.cons.inj h).2
    exact ⟨more, rfl, hmore⟩

/-- There is a closing sign after replacing only if there was one before. -/
theorem closing_of_replaceTags {cs : List Char} (h : '>' ∈ replaceTags kind replacement 0 cs) :
    '>' ∈ cs := by
  induction cs using pieces_induction kind with
  | nil => exact h
  | tag m rest hm _ => simp [TagMatch.written]
  | plain c rest hnone ih =>
    rw [replaceTags_plain hnone] at h
    rcases List.mem_cons.1 h with rfl | h
    · exact List.mem_cons_self
    · exact List.mem_cons_of_mem c (ih h)

/-- Where no tag begins, none begins when the tags behind are replaced by what begins with an
opening sign. -/
theorem tagAt?_cons_replaceTags (hkind : kind.IsPlain)
    (hsign : ∀ m, m.IsOf kind → (replacement m).head? = some '<') {c : Char} {cs : List Char}
    (h : tagAt? kind (c :: cs) = none) :
    tagAt? kind (c :: replaceTags kind replacement 0 cs) = none := by
  rw [Option.eq_none_iff_forall_ne_some]
  intro m hfound
  obtain ⟨hm, rest, hsplit⟩ := tagAt?_eq_some_iff.1 hfound
  obtain ⟨letters, hopening, hletters⟩ := hm.opening
  have hwritten : m.written ++ rest = '<' :: (letters ++ (m.inside ++ '>' :: rest)) := by
    simp [TagMatch.written, hopening]
  rw [hwritten] at hsplit
  obtain ⟨rfl, hreplaced⟩ := List.cons.inj hsplit
  obtain ⟨behind, rfl, hbehind⟩ :=
    replaceTags_eq_append hsign (hkind.not_mem_letters hletters) hreplaced
  have hmem : '>' ∈ replaceTags kind replacement 0 behind := by simp [hbehind]
  obtain ⟨inside, after, rfl, hinside⟩ := List.eq_append_cons_of_mem (closing_of_replaceTags hmem)
  -- The stretch before replacing begins like the one after it.
  have hhead : inside.head? = m.inside.head? := by
    have hsame := head?_replaceTags hsign (inside ++ '>' :: after)
    rw [hbehind] at hsame
    have hclosed := hm.closed
    cases inside <;> cases hstretch : m.inside <;> simp_all
  have hbefore : TagMatch.IsOf ⟨'<' :: letters, inside⟩ kind :=
    ⟨⟨letters, rfl, hletters⟩, hinside, hkind.admits hhead ▸ hm.admitted⟩
  have htag := hbefore.tagAt? after
  rw [TagMatch.written] at htag
  simp only [List.cons_append, List.append_assoc, List.nil_append] at htag
  rw [htag] at h
  cases h

/-- The tags of a text in which each tag is replaced by another of the kind. -/
theorem tagsIn_replaceTags (hkind : kind.IsPlain) (other : TagMatch → TagMatch)
    (hother : ∀ m, m.IsOf kind → (other m).IsOf kind) (cs : List Char) :
    tagsIn kind (replaceTags kind (fun m => (other m).written) 0 cs) =
      (tagsIn kind cs).map other := by
  have hsign (m : TagMatch) (hm : m.IsOf kind) : (other m).written.head? = some '<' := by
    obtain ⟨letters, hopening, -⟩ := (hother m hm).opening
    rw [TagMatch.written, hopening]
    rfl
  induction cs using pieces_induction kind with
  | nil => rfl
  | tag m rest hm ih =>
    rw [replaceTags_tag hm, tagsIn_tag (hother m hm), ih, tagsIn_tag hm, List.map_cons]
  | plain c rest hnone ih =>
    rw [replaceTags_plain hnone, tagsIn_plain (tagAt?_cons_replaceTags hkind hsign hnone), ih,
      tagsIn_plain hnone]

end InteractiveBook.Html
