import InteractiveBook.Proofs.Content.Column
import InteractiveBook.Proofs.Content.Draws
import InteractiveBook.Proofs.Content.Identifier
import Mathlib.Data.List.Nodup
import Mathlib.Data.Set.Function

/-!
# Chapters that share a supply

Chapters that are built at the same time draw from one supply, and their draws may come in any
order. No identifier is drawn twice, so that no two objects or questions of the book have the same
one. Apart from the names of identifiers the book is the one whose chapters were built in turn.
-/

namespace InteractiveBook.Content

open Library Source

variable {source : IdSource}

/-! ### The draws of a common supply -/

/-- What chapters that are built at the same time have drawn from their common supply. -/
structure Shares where
  /-- The identifiers that each chapter has drawn, the first one first. -/
  drawn : Nat → List SubContentId
  /-- The number of identifiers that were drawn in all. -/
  taken : Nat

namespace Shares

/-- Nothing has been drawn. -/
def start : Shares := ⟨fun _ => [], 0⟩

/-- A chapter draws the next identifier of the supply. -/
def draw (source : IdSource) (s : Shares) (chapter : Nat) : Shares :=
  ⟨Function.update s.drawn chapter (s.drawn chapter ++ [source s.taken]), s.taken + 1⟩

/-- A draw adds an identifier to the share of the chapter that draws. -/
theorem drawn_draw_self (source : IdSource) (s : Shares) (chapter : Nat) :
    (s.draw source chapter).drawn chapter = s.drawn chapter ++ [source s.taken] :=
  Function.update_self ..

/-- A draw changes no share but that of the chapter that draws. -/
theorem drawn_draw_of_ne {chapter other : Nat} (h : other ≠ chapter) (source : IdSource)
    (s : Shares) : (s.draw source chapter).drawn other = s.drawn other :=
  Function.update_of_ne h ..

/-- What has been drawn when the chapters drew in an order, each of them perhaps many times. -/
def ofOrder (source : IdSource) (order : List Nat) : Shares := order.foldl (draw source) start

/-- The supplies of the chapters: each of them draws what it has drawn in the order, and would go on
with other identifiers. -/
def lanes (s : Shares) (rest : IdSource) : IdLanes := fun chapter n =>
  (s.drawn chapter)[n]?.getD (rest n)

/-- What holds of all shares: they come from the part of the supply that was taken, and no
identifier was drawn twice. -/
structure IsFair (source : IdSource) (s : Shares) : Prop where
  /-- What was drawn comes from the part of the supply that was taken. -/
  early : ∀ chapter, ∀ id ∈ s.drawn chapter, ∃ k < s.taken, source k = id
  /-- No chapter has drawn an identifier twice. -/
  nodup : ∀ chapter, (s.drawn chapter).Nodup
  /-- No two chapters have drawn the same identifier. -/
  apart : ∀ chapter other, ∀ id ∈ s.drawn chapter, id ∈ s.drawn other → chapter = other

/-- A draw keeps the shares fair: the next identifier of the supply has not been drawn yet. -/
theorem IsFair.draw {s : Shares} (hsource : Function.Injective source) (h : s.IsFair source)
    (chapter : Nat) : (s.draw source chapter).IsFair source := by
  have hnew : ∀ other, source s.taken ∉ s.drawn other := by
    intro other hmem
    obtain ⟨k, hk, heq⟩ := h.early other _ hmem
    exact hk.ne (hsource heq)
  have hdrawn : ∀ other, ∀ id ∈ (s.draw source chapter).drawn other,
      id ∈ s.drawn other ∨ other = chapter ∧ id = source s.taken := by
    intro other id hid
    by_cases heq : other = chapter
    · subst heq
      rw [drawn_draw_self] at hid
      rcases List.mem_append.1 hid with hid | hid
      · exact .inl hid
      · exact .inr ⟨rfl, List.mem_singleton.1 hid⟩
    · rw [drawn_draw_of_ne heq] at hid
      exact .inl hid
  constructor
  case early =>
    intro other id hid
    rcases hdrawn other id hid with hid | ⟨-, rfl⟩
    · obtain ⟨k, hk, heq⟩ := h.early other id hid
      exact ⟨k, Nat.lt_succ_of_lt hk, heq⟩
    · exact ⟨s.taken, Nat.lt_succ_self _, rfl⟩
  case nodup =>
    intro other
    by_cases heq : other = chapter
    · subst heq
      rw [drawn_draw_self, List.nodup_append]
      refine ⟨h.nodup other, List.nodup_singleton _, fun id hid id' hid' => ?_⟩
      rw [List.mem_singleton.1 hid']
      rintro rfl
      exact hnew other hid
    · rw [drawn_draw_of_ne heq]
      exact h.nodup other
  case apart =>
    intro one other id hone hother
    rcases hdrawn one id hone with hone | ⟨rfl, rfl⟩
    · rcases hdrawn other id hother with hother | ⟨-, rfl⟩
      · exact h.apart one other id hone hother
      · exact absurd hone (hnew one)
    · rcases hdrawn other _ hother with hother | ⟨rfl, -⟩
      · exact absurd hother (hnew other)
      · rfl

/-- In whatever order the chapters draw, the shares are fair, and a chapter has drawn as often as it
stands in the order. -/
theorem isFair_ofOrder (hsource : Function.Injective source) (order : List Nat) :
    (ofOrder source order).IsFair source ∧
      ∀ chapter, ((ofOrder source order).drawn chapter).length = order.count chapter := by
  have hrun : ∀ s : Shares, s.IsFair source → (order.foldl (draw source) s).IsFair source ∧
      ∀ chapter, ((order.foldl (draw source) s).drawn chapter).length =
        (s.drawn chapter).length + order.count chapter := by
    induction order with
    | nil => exact fun s h => ⟨h, fun _ => rfl⟩
    | cons next order ih =>
      intro s h
      obtain ⟨hfair, hlength⟩ := ih (s.draw source next) (h.draw hsource next)
      refine ⟨hfair, fun chapter => (hlength chapter).trans ?_⟩
      by_cases heq : chapter = next
      · subst heq
        rw [drawn_draw_self, List.length_append, List.length_singleton, List.count_cons_self]
        omega
      · rw [drawn_draw_of_ne heq, List.count_cons_of_ne (Ne.symm heq)]
  have hstart : start.IsFair source :=
    ⟨fun _ _ h => absurd h List.not_mem_nil, fun _ => List.nodup_nil,
      fun _ _ _ h => absurd h List.not_mem_nil⟩
  obtain ⟨hfair, hlength⟩ := hrun start hstart
  exact ⟨hfair, fun chapter => (hlength chapter).trans (Nat.zero_add _)⟩

end Shares

/-! ### Chapters that are built apart -/

/-- The draws of the chapters of a book: the place of a chapter and the number of a draw of it. -/
def bookDraws (ctx : BuildContext) (chapters : List DecodedChapter) : Set (Nat × Nat) :=
  {draw | ∃ c, chapters[draw.1]? = some c ∧ draw.2 < chapterDraws ctx c}

/-- The identifier that a draw of a chapter gives. -/
def IdLanes.given (lanes : IdLanes) (draw : Nat × Nat) : SubContentId := lanes draw.1 draw.2

/-- A chapter holds what is drawn for it. -/
theorem ids_run_buildChapter (ctx : BuildContext) (c : DecodedChapter) (ids : IdSource) :
    (Draw.run' (buildChapter ctx c) ids).ids.Perm ((List.range (chapterDraws ctx c)).map ids) := by
  have hheld := (takes_buildChapter ctx c).held ids 0
  rw [List.nil_append, drawsFrom] at hheld
  simpa only [Nat.zero_add, Draw.run'] using hheld

/-- The chapters that are built apart stand in the order of the source. -/
theorem getElem?_buildApart (ctx : BuildContext) (chapters : List DecodedChapter) (lanes : IdLanes)
    (i : Nat) : (buildApart ctx chapters lanes)[i]? =
      chapters[i]?.map fun c => Draw.run' (buildChapter ctx c) (lanes i) := by
  rw [buildApart, List.getElem?_map, List.getElem?_zipIdx, Option.map_map, Nat.zero_add]
  rfl

variable {ctx : BuildContext} {chapters : List DecodedChapter} {lanes lanes' : IdLanes}

/-- The draws of a book in the order of its chapters. -/
def drawList (ctx : BuildContext) (chapters : List DecodedChapter) : List (Nat × Nat) :=
  chapters.zipIdx.flatMap fun p => (List.range (chapterDraws ctx p.1)).map (Prod.mk p.2)

/-- The list has the draws of the book. -/
theorem mem_drawList {draw : Nat × Nat} :
    draw ∈ drawList ctx chapters ↔ draw ∈ bookDraws ctx chapters := by
  rw [drawList, List.mem_flatMap]
  constructor
  · rintro ⟨⟨c, i⟩, hc, hmem⟩
    obtain ⟨n, hn, rfl⟩ := List.mem_map.1 hmem
    exact ⟨c, List.mem_zipIdx_iff_getElem?.1 hc, List.mem_range.1 hn⟩
  · rintro ⟨c, hc, hn⟩
    exact ⟨(c, draw.1), List.mem_zipIdx_iff_getElem?.2 hc,
      List.mem_map.2 ⟨draw.2, List.mem_range.2 hn, rfl⟩⟩

/-- No draw is listed twice. -/
theorem nodup_drawList : (drawList ctx chapters).Nodup := by
  rw [drawList, List.nodup_flatMap]
  refine ⟨fun p _ => List.nodup_range.map (Prod.mk_right_injective _), ?_⟩
  have hplaces : chapters.zipIdx.Pairwise fun p q => p.2 ≠ q.2 := by
    rw [← List.pairwise_map, List.zipIdx_map_snd]
    exact List.nodup_range'
  refine hplaces.imp fun hne draw hp hq => ?_
  obtain ⟨m, -, rfl⟩ := List.mem_map.1 hp
  obtain ⟨n, -, heq⟩ := List.mem_map.1 hq
  exact hne (Prod.mk.inj heq).1.symm

/-- The identifiers in a book are those that were drawn for it, each as often as it was drawn. -/
theorem ids_buildApart : ((buildApart ctx chapters lanes).flatMap ContentObject.ids).Perm
    ((drawList ctx chapters).map lanes.given) := by
  rw [buildApart, List.flatMap_map, drawList, List.map_flatMap]
  refine List.Perm.flatMap_left _ fun p _ => ?_
  rw [List.map_map]
  exact ids_run_buildChapter ctx p.1 (lanes p.2)

/-- An identifier is in a book when it was drawn for it. -/
theorem mem_ids_buildApart {id : SubContentId} :
    id ∈ (buildApart ctx chapters lanes).flatMap ContentObject.ids ↔
      ∃ draw ∈ bookDraws ctx chapters, lanes.given draw = id := by
  rw [ids_buildApart.mem_iff, List.mem_map]
  simp only [mem_drawList]

/-- No identifier comes twice in a book exactly when none was drawn twice for it. -/
theorem nodup_buildApart_iff : ((buildApart ctx chapters lanes).flatMap ContentObject.ids).Nodup ↔
    Set.InjOn lanes.given (bookDraws ctx chapters) := by
  rw [ids_buildApart.nodup_iff, List.nodup_map_iff_inj_on nodup_drawList]
  simp only [mem_drawList]
  rfl

/-- A book that is built from other identifiers is the same book with the identifiers renamed. -/
theorem buildApart_renamed {ρ : SubContentId → SubContentId}
    (h : ∀ draw ∈ bookDraws ctx chapters, ρ (lanes.given draw) = lanes'.given draw) :
    buildApart ctx chapters lanes' = (buildApart ctx chapters lanes).map (·.rename ρ) := by
  refine List.ext_getElem? fun i => ?_
  rw [List.getElem?_map, getElem?_buildApart, getElem?_buildApart, Option.map_map]
  cases hc : chapters[i]? with
  | none => rfl
  | some c =>
    have hrenamed := (related_buildChapter (ρ := ρ) ctx c (lanes i) 0).1.eq
    have hsame : Draw.run' (buildChapter ctx c) (lanes' i) =
        Draw.run' (buildChapter ctx c) fun k => ρ (lanes i k) := by
      refine (takes_buildChapter ctx c).decided _ _ 0 0 fun k hk => ?_
      rw [Nat.zero_add]
      exact (h (i, k) ⟨c, hc, hk⟩).symm
    rw [Option.map_some, Option.map_some, hsame]
    exact congrArg some hrenamed

/-- Objects whose identifiers are all different were renamed without confusing any. -/
theorem injOn_of_nodup_rename {objects : List ContentObject} {ρ : SubContentId → SubContentId}
    (h : ((objects.map (·.rename ρ)).flatMap ContentObject.ids).Nodup) :
    Set.InjOn ρ {id | id ∈ objects.flatMap ContentObject.ids} := by
  rw [ContentObject.flatMap_ids_rename] at h
  exact fun _ hid _ hid' => List.inj_on_of_nodup_map h hid hid'

/-- When no identifier is drawn twice, each can be sent to what the draw that gave it gives from
other supplies. -/
theorem exists_renaming_given {draws : Set (Nat × Nat)} (h : Set.InjOn lanes.given draws)
    (lanes' : IdLanes) : ∃ ρ : SubContentId → SubContentId,
      ∀ draw ∈ draws, ρ (lanes.given draw) = lanes'.given draw :=
  ⟨lanes'.given ∘ Function.invFunOn lanes.given draws,
    fun _ hdraw => congrArg lanes'.given (h.leftInvOn_invFunOn hdraw)⟩

/-- The identifiers of a book can be renamed to those of any other book of the same chapters if none
of them comes twice. -/
theorem exists_renaming_buildApart
    (h : ((buildApart ctx chapters lanes).flatMap ContentObject.ids).Nodup) (lanes' : IdLanes) :
    ∃ ρ : SubContentId → SubContentId,
      buildApart ctx chapters lanes' = (buildApart ctx chapters lanes).map (·.rename ρ) := by
  obtain ⟨ρ, hρ⟩ := exists_renaming_given (nodup_buildApart_iff.1 h) lanes'
  exact ⟨ρ, buildApart_renamed hρ⟩

/-- When every chapter draws often enough, no two draws of the book give the same identifier. -/
theorem Shares.injOn_lanes (hsource : Function.Injective source) {order : List Nat}
    (horder : ∀ i c, chapters[i]? = some c → chapterDraws ctx c ≤ order.count i)
    (rest : IdSource) :
    Set.InjOn ((ofOrder source order).lanes rest).given (bookDraws ctx chapters) := by
  obtain ⟨hfair, hlength⟩ := isFair_ofOrder hsource order
  have hgiven : ∀ i n, (i, n) ∈ bookDraws ctx chapters →
      ((ofOrder source order).drawn i)[n]? =
        some (((ofOrder source order).lanes rest).given (i, n)) := by
    rintro i n ⟨c, hc, hn⟩
    have hlt : n < ((ofOrder source order).drawn i).length := by
      rw [hlength]
      exact lt_of_lt_of_le hn (horder i c hc)
    rw [IdLanes.given, lanes, List.getElem?_eq_getElem hlt, Option.getD_some]
  rintro ⟨i, m⟩ hm ⟨j, n⟩ hn heq
  have him := hgiven i m hm
  have hjn := hgiven j n hn
  rw [← heq] at hjn
  obtain rfl := hfair.apart i j _ (List.mem_of_getElem? him) (List.mem_of_getElem? hjn)
  obtain ⟨hltm, hm⟩ := List.getElem?_eq_some_iff.1 him
  obtain ⟨hltn, hn⟩ := List.getElem?_eq_some_iff.1 hjn
  rw [(hfair.nodup i).getElem_inj_iff.1 (hm.trans hn.symm)]

/-! ### Chapters that are built in turn -/

/-- The number of draws before those of a chapter, when the chapters are built in turn. -/
def drawsBefore (ctx : BuildContext) (chapters : List DecodedChapter) (i : Nat) : Nat :=
  ((chapters.take i).map (chapterDraws ctx)).sum

/-- The supplies of chapters that are built in turn: one supply from different places on. -/
def turnLanes (ctx : BuildContext) (chapters : List DecodedChapter) (ids : IdSource) : IdLanes :=
  fun i => ids.drop (drawsBefore ctx chapters i)

/-- Chapters that are built in turn are built as if apart, each from its place in the supply on. -/
theorem buildInTurn_eq (ctx : BuildContext) (chapters : List DecodedChapter) (ids : IdSource) :
    buildInTurn ctx chapters ids = buildApart ctx chapters (turnLanes ctx chapters ids) := by
  have hrun : ∀ n i : Nat, (ReaderT.run (chapters.mapM (buildChapter ctx)) ids n).1[i]? =
      chapters[i]?.map fun c =>
        Draw.run' (buildChapter ctx c) (ids.drop (n + drawsBefore ctx chapters i)) := by
    induction chapters with
    | nil => exact fun _ _ => rfl
    | cons c rest ih =>
      intro n i
      have hcons : (ReaderT.run ((c :: rest).mapM (buildChapter ctx)) ids n).1 =
          (ReaderT.run (buildChapter ctx c) ids n).1 ::
            (ReaderT.run (rest.mapM (buildChapter ctx)) ids
              (ReaderT.run (buildChapter ctx c) ids n).2).1 := by
        rw [List.mapM_cons]
        rfl
      rw [hcons, (takes_buildChapter ctx c).taken]
      cases i with
      | zero =>
        rw [List.getElem?_cons_zero, List.getElem?_cons_zero, Option.map_some]
        refine congrArg some ((takes_buildChapter ctx c).decided _ _ _ _ fun k _ => ?_)
        simp [IdSource.drop, drawsBefore]
      | succ i =>
        rw [List.getElem?_cons_succ, List.getElem?_cons_succ, ih]
        simp [drawsBefore, Nat.add_assoc]
  refine List.ext_getElem? fun i => ?_
  rw [getElem?_buildApart, turnLanes, ← Nat.zero_add (drawsBefore ctx chapters i)]
  exact hrun 0 i

/-- The draws of a chapter come before those of the chapters behind it. -/
theorem drawsBefore_add_le (ctx : BuildContext) {i j : Nat} {c : DecodedChapter}
    (hc : chapters[i]? = some c) (hij : i < j) :
    drawsBefore ctx chapters i + chapterDraws ctx c ≤ drawsBefore ctx chapters j := by
  induction chapters generalizing i j with
  | nil => cases hc
  | cons first rest ih =>
    obtain ⟨j, rfl⟩ := Nat.exists_eq_add_of_lt hij
    cases i with
    | zero =>
      obtain rfl : first = c := by simpa using hc
      simp [drawsBefore]
    | succ i =>
      have hrest := ih (j := i + j + 1) (by simpa using hc) (by omega)
      have hstep : i + 1 + j + 1 = i + j + 1 + 1 := by omega
      simp only [drawsBefore, hstep, List.take_succ_cons, List.map_cons, List.sum_cons] at hrest ⊢
      omega

/-- In turn no identifier is drawn twice. -/
theorem injOn_turnLanes {ids : IdSource} (hids : Function.Injective ids) :
    Set.InjOn (turnLanes ctx chapters ids).given (bookDraws ctx chapters) := by
  rintro ⟨i, m⟩ ⟨c, hc, hm⟩ ⟨j, n⟩ ⟨d, hd, hn⟩ heq
  have hplace : drawsBefore ctx chapters i + m = drawsBefore ctx chapters j + n := hids heq
  dsimp only at hc hd hm hn
  rcases Nat.lt_trichotomy i j with hij | rfl | hij
  · have hless := drawsBefore_add_le ctx hc hij
    omega
  · rw [Nat.add_left_cancel hplace]
  · have hless := drawsBefore_add_le ctx hd hij
    omega

/-- The supplies that the chapters of a book draw from: those of the book, or parts of the first
one when the chapters are built in turn. -/
def chapterLanes (ctx : BuildContext) (chapters : List DecodedChapter) (parallel : Bool)
    (lanes : IdLanes) : IdLanes :=
  if parallel then lanes else turnLanes ctx chapters (lanes 0)

/-- The chapters of a book are built apart from these supplies. -/
theorem buildChapters_eq_buildApart (ctx : BuildContext) (chapters : List DecodedChapter)
    (parallel : Bool) (lanes : IdLanes) : buildChapters ctx chapters parallel lanes =
      buildApart ctx chapters (chapterLanes ctx chapters parallel lanes) := by
  cases parallel with
  | false => exact buildInTurn_eq ctx chapters (lanes 0)
  | true => rfl

/-- The identifiers of a book can be renamed to those of any other book of the same chapters if none
of them comes twice. -/
theorem exists_renaming_buildChapters {parallel : Bool}
    (h : ((buildChapters ctx chapters parallel lanes).flatMap ContentObject.ids).Nodup)
    (lanes' : IdLanes) : ∃ ρ : SubContentId → SubContentId,
      buildChapters ctx chapters parallel lanes' =
        (buildChapters ctx chapters parallel lanes).map (·.rename ρ) := by
  rw [buildChapters_eq_buildApart] at h ⊢
  rw [buildChapters_eq_buildApart]
  exact exists_renaming_buildApart h _

/-- The chapters of a book become columns of blocks. -/
theorem isChapter_buildChapters (ctx : BuildContext) (chapters : List DecodedChapter)
    (parallel : Bool) (lanes : IdLanes) :
    ∀ o ∈ buildChapters ctx chapters parallel lanes, o.IsChapter :=
  forall_mem_of_forall₂ (forall₂_buildChapters_of_yields
    (fun c ids n => (related_buildChapter (ρ := id) ctx c ids n).1.kind) chapters parallel lanes)

/-- The identifiers in the chapters that are built from random ones are random. -/
theorem IdLanes.Random.areRandom_buildChapters (h : lanes.Random) (ctx : BuildContext)
    (chapters : List DecodedChapter) (parallel : Bool) :
    AreRandom ((buildChapters ctx chapters parallel lanes).flatMap ContentObject.ids) := by
  rw [buildChapters_eq_buildApart]
  constructor
  case nodup =>
    rw [nodup_buildApart_iff]
    cases parallel with
    | false => exact injOn_turnLanes fun m n heq => (h.distinct 0 m 0 n heq).2
    | true =>
      rintro ⟨i, m⟩ - ⟨j, n⟩ - heq
      obtain ⟨rfl, rfl⟩ := h.distinct i m j n heq
      rfl
  case form =>
    intro id hid
    obtain ⟨draw, -, rfl⟩ := mem_ids_buildApart.1 hid
    cases parallel <;> exact h.form _ _

/-! ### The book -/

/-- Chapters that are built at the same time draw from one supply in any order, each of them as
often as it needs. The book holds their columns in the order of the source, no two of its objects
and questions have the same identifier, and apart from the names of identifiers it is the book whose
chapters were built in turn, from whatever supply that was. -/
theorem buildChapters_shared {source supply : IdSource} {order : List Nat}
    (hsource : Function.Injective source) (hsupply : Function.Injective supply)
    (horder : ∀ i c, chapters[i]? = some c → chapterDraws ctx c ≤ order.count i)
    (rest : IdSource) :
    let shared := buildChapters ctx chapters true ((Shares.ofOrder source order).lanes rest)
    let inTurn := buildChapters ctx chapters false fun _ => supply
    List.Forall₂ (IsColumnOf ctx) chapters shared ∧
      (shared.flatMap ContentObject.ids).Nodup ∧
      (inTurn.flatMap ContentObject.ids).Nodup ∧
      ∃ ρ : SubContentId → SubContentId,
        Set.InjOn ρ {id | id ∈ inTurn.flatMap ContentObject.ids} ∧
          shared = inTurn.map (·.rename ρ) := by
  intro shared inTurn
  have happart : (shared.flatMap ContentObject.ids).Nodup :=
    nodup_buildApart_iff.2 (Shares.injOn_lanes hsource horder rest)
  have hinTurn : inTurn = buildApart ctx chapters (turnLanes ctx chapters supply) :=
    buildInTurn_eq ctx chapters supply
  have hturn : (inTurn.flatMap ContentObject.ids).Nodup := by
    rw [hinTurn]
    exact nodup_buildApart_iff.2 (injOn_turnLanes hsupply)
  refine ⟨forall₂_buildChapters .., happart, hturn, ?_⟩
  rw [hinTurn] at hturn ⊢
  obtain ⟨ρ, hρ⟩ := exists_renaming_buildApart hturn _
  have hshared : shared = (buildApart ctx chapters (turnLanes ctx chapters supply)).map
      (·.rename ρ) := hρ
  exact ⟨ρ, injOn_of_nodup_rename (hshared ▸ happart), hshared⟩

/-- Building with libraries for accordions and quizzes. -/
def panelContext : BuildContext where
  libraries := .ofEntries
    [(.accordion, some ⟨"H5P.Accordion", 1, 0⟩),
      (.singleChoiceSet, some ⟨"H5P.SingleChoiceSet", 1, 11⟩)]
  render := id

/-- A chapter of an accordion and a quiz, and one without blocks. -/
def panelBook : List DecodedChapter :=
  [⟨"A", [⟨.accordion, ["+++ P", "b"]⟩, ⟨.quiz, ["? q", "* a"]⟩]⟩, ⟨"B", []⟩]

/-- The second chapter draws first and then between the draws of the first one. -/
theorem panelBook_shared :
    let source := IdLanes.ofSeed 0 0
    let order := [1, 0, 0, 1, 0, 0, 0]
    let shared := buildChapters panelContext panelBook true
      ((Shares.ofOrder source order).lanes source)
    let inTurn := buildChapters panelContext panelBook false fun _ => source
    Function.Injective source ∧
      (∀ i c, panelBook[i]? = some c → chapterDraws panelContext c ≤ order.count i) ∧
      shared ≠ inTurn ∧
      List.Forall₂ (IsColumnOf panelContext) panelBook shared ∧
      (shared.flatMap ContentObject.ids).Nodup ∧
      (inTurn.flatMap ContentObject.ids).Nodup ∧
      ∃ ρ : SubContentId → SubContentId,
        Set.InjOn ρ {id | id ∈ inTurn.flatMap ContentObject.ids} ∧
          shared = inTurn.map (·.rename ρ) := by
  intro source order shared inTurn
  have hsource : Function.Injective source :=
    fun m n heq => ((IdLanes.ofSeed_random 0).distinct 0 m 0 n heq).2
  have horder : ∀ i c, panelBook[i]? = some c → chapterDraws panelContext c ≤ order.count i := by
    intro i c hc
    match i, hc with
    | 0, hc =>
      obtain rfl := Option.some.inj hc
      decide +kernel
    | 1, hc =>
      obtain rfl := Option.some.inj hc
      decide +kernel
  have hother : (shared.map fun o => o.info.id) ≠ inTurn.map fun o => o.info.id := by
    decide +kernel
  exact ⟨hsource, horder, fun heq => hother (by rw [heq]),
    buildChapters_shared hsource hsource horder source⟩

end InteractiveBook.Content
