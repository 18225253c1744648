import Mathlib

/-!
# Sweeping a list page by page

A loop reads one page of a list at a time and removes the doomed items it is shown.  After
a removal it reads the same page again, since later items have moved up; otherwise it goes
on to the next page.  It stops at the first page that shows nothing.  Items that are not
shown still take up their places, so a page full of them hides what lies behind.
-/

namespace Relayer.PagedSweep

variable {A : Type}

structure Swept (A : Type) where
  remaining : List A
  removed : ℕ
  finished : Bool
  deriving DecidableEq, Repr

def pageOf (size page : ℕ) (items : List A) : List A := (items.drop (page * size)).take size

def kept (doomed : A → Bool) (items : List A) : List A := items.filter fun item => !doomed item

/-- Once the doomed items before it are gone, a whole page shows nothing, and a doomed item
lies behind it. -/
def Blind (size : ℕ) (shown doomed : A → Bool) (items : List A) : Prop :=
  ∃ before after earlier page, items = before ++ after ∧
    kept doomed before = earlier ++ page ∧ size ∣ earlier.length ∧ page.length = size ∧
      (∀ item ∈ page, shown item = false) ∧ ∃ item ∈ after, doomed item = true

section Blind

variable {size : ℕ} {shown doomed : A → Bool} {front tail : List A}

theorem kept_append (left right : List A) :
    kept doomed (left ++ right) = kept doomed left ++ kept doomed right :=
  List.filter_append ..

theorem kept_eq_self {items : List A} (hclean : ∀ item ∈ items, doomed item = false) :
    kept doomed items = items :=
  List.filter_eq_self.mpr fun item hmem => by simp [hclean item hmem]

theorem not_blind_of_clean {items : List A} (hclean : ∀ item ∈ items, doomed item = false) :
    ¬ Blind size shown doomed items := by
  rintro ⟨before, after, -, -, rfl, -, -, -, -, item, hmem, hdoomed⟩
  rw [hclean item (List.mem_append_right _ hmem)] at hdoomed
  exact absurd hdoomed (by decide)

theorem not_blind_of_shown {items : List A} (hsize : 0 < size)
    (hshown : ∀ item ∈ items, shown item = true) : ¬ Blind size shown doomed items := by
  rintro ⟨before, after, earlier, page, rfl, hkept, -, hpage, hhidden, -⟩
  obtain ⟨item, hmem⟩ := List.exists_mem_of_length_pos (hpage ▸ hsize)
  have hbefore : item ∈ kept doomed before := hkept ▸ List.mem_append_right _ hmem
  have hvisible := hshown item (List.mem_append_left _ (List.mem_of_mem_filter hbefore))
  rw [hhidden item hmem] at hvisible
  exact absurd hvisible (by decide)

/-- A blind page lies behind all that does not fill a page. -/
theorem exists_of_blind (hfront : front.length ≤ size)
    (hblind : Blind size shown doomed (front ++ tail)) :
    ∃ before after earlier page, tail = before ++ after ∧
      kept doomed front ++ kept doomed before = earlier ++ page ∧ size ∣ earlier.length ∧
        page.length = size ∧ (∀ item ∈ page, shown item = false) ∧
          ∃ item ∈ after, doomed item = true := by
  obtain ⟨before, after, earlier, page, hitems, hkept, hwhole, hpage, hhidden, hbehind⟩ := hblind
  have hlong : front.length ≤ before.length := by
    have hlength := congrArg List.length hkept
    have hfilter := List.length_filter_le (fun item => !doomed item) before
    rw [kept, List.length_append, hpage] at hlength
    omega
  obtain ⟨middle, rfl, htail⟩ | ⟨middle, rfl, rfl⟩ := List.append_eq_append_iff.mp hitems
  · rw [kept_append] at hkept
    exact ⟨middle, after, earlier, page, htail, hkept, hwhole, hpage, hhidden, hbehind⟩
  · have hnil : middle = [] := by
      rw [List.length_append] at hlong
      exact List.length_eq_zero_iff.mp (by omega)
    subst hnil
    rw [List.append_nil] at *
    exact ⟨[], tail, earlier, page, rfl, by simpa [kept] using hkept, hwhole, hpage, hhidden,
      hbehind⟩

/-- The doomed items of the first page make no difference. -/
theorem Blind.replace {other : List A} (hblind : Blind size shown doomed (front ++ tail))
    (hfront : front.length ≤ size) (hkept : kept doomed other = kept doomed front) :
    Blind size shown doomed (other ++ tail) := by
  obtain ⟨before, after, earlier, page, rfl, hpages, hrest⟩ := exists_of_blind hfront hblind
  refine ⟨other ++ before, after, earlier, page, (List.append_assoc ..).symm, ?_, hrest⟩
  rw [kept_append, hkept, hpages]

/-- A page that shows something does not hide what lies behind. -/
theorem blind_append_iff (tail : List A) (hfront : front.length = size)
    (hclean : ∀ item ∈ front, doomed item = false) (hshown : ∃ item ∈ front, shown item = true) :
    Blind size shown doomed (front ++ tail) ↔ Blind size shown doomed tail := by
  constructor
  · intro hblind
    obtain ⟨before, after, earlier, page, rfl, hpages, hwhole, hpage, hhidden, hbehind⟩ :=
      exists_of_blind hfront.le hblind
    rw [kept_eq_self hclean] at hpages
    have hearlier : earlier ≠ [] := by
      rintro rfl
      obtain ⟨item, hmem, hvisible⟩ := hshown
      rw [List.nil_append] at hpages
      rw [hhidden item (hpages ▸ List.mem_append_left _ hmem)] at hvisible
      exact absurd hvisible (by decide)
    have hlong : front.length ≤ earlier.length := by
      rw [hfront]
      exact Nat.le_of_dvd (List.length_pos_of_ne_nil hearlier) hwhole
    obtain ⟨middle, rfl, hmiddle⟩ | ⟨middle, rfl, hmiddle⟩ := List.append_eq_append_iff.mp hpages
    · refine ⟨before, after, middle, page, rfl, hmiddle, ?_, hpage, hhidden, hbehind⟩
      rw [List.length_append, hfront] at hwhole
      exact (Nat.dvd_add_right (dvd_refl size)).mp hwhole
    · have hnil : middle = [] := by
        rw [List.length_append] at hlong
        exact List.length_eq_zero_iff.mp (by omega)
      subst hnil
      exact ⟨before, after, [], page, rfl, by simpa using hmiddle.symm, dvd_zero size, hpage,
        hhidden, hbehind⟩
  · rintro ⟨before, after, earlier, page, rfl, hpages, hwhole, hrest⟩
    refine ⟨front ++ before, after, front ++ earlier, page, (List.append_assoc ..).symm, ?_, ?_,
      hrest⟩
    · rw [kept_append, kept_eq_self hclean, hpages, List.append_assoc]
    · rw [List.length_append, hfront]
      exact Nat.dvd_add (dvd_refl size) hwhole

/-- A first page that shows nothing hides all that lies behind. -/
theorem blind_of_hidden (hfront : front.length = size)
    (hclean : ∀ item ∈ front, doomed item = false)
    (hhidden : ∀ item ∈ front, shown item = false) (hbehind : ∃ item ∈ tail, doomed item = true) :
    Blind size shown doomed (front ++ tail) :=
  ⟨front, tail, [], front, rfl, kept_eq_self hclean, dvd_zero size, hfront, hhidden, hbehind⟩

end Blind

section Standing

variable {size : ℕ} {shown doomed : A → Bool} {items done rest : List A} {page : ℕ}

theorem pageOf_sublist (size page : ℕ) (items : List A) : (pageOf size page items).Sublist items :=
  (List.take_sublist _ _).trans (List.drop_sublist _ _)

/-- The loop stands at `rest`; no doomed item lies before. -/
structure Standing (size : ℕ) (doomed : A → Bool) (page : ℕ) (items done rest : List A) : Prop
    where
  nodup : items.Nodup
  parts : items = done ++ rest
  reached : items.drop (page * size) = rest
  clean : ∀ item ∈ done, doomed item = false

theorem standing_start (hnodup : items.Nodup) : Standing size doomed 0 items [] items :=
  ⟨hnodup, rfl, by simp, nofun⟩

theorem Standing.next (hstanding : Standing size doomed page items done rest)
    (hgone : (rest.take size).filter doomed = []) :
    Standing size doomed (page + 1) items (done ++ rest.take size) (rest.drop size) where
  nodup := hstanding.nodup
  parts := by rw [List.append_assoc, List.take_append_drop, hstanding.parts]
  reached := by rw [Nat.succ_mul, ← List.drop_drop, hstanding.reached]
  clean := by
    intro item hmem
    rcases List.mem_append.mp hmem with hmem | hmem
    · exact hstanding.clean item hmem
    · simpa using List.filter_eq_nil_iff.mp hgone item hmem

theorem Standing.pageOf_eq (hstanding : Standing size doomed page items done rest) :
    pageOf size page items = rest.take size := by
  rw [pageOf, hstanding.reached]

theorem Standing.length_done (hstanding : Standing size doomed page items done rest)
    (hrest : rest ≠ []) : done.length = page * size := by
  have hlength := congrArg List.length hstanding.reached
  have htotal := congrArg List.length hstanding.parts
  have hpositive := List.length_pos_of_ne_nil hrest
  rw [List.length_drop] at hlength
  rw [List.length_append] at htotal
  omega

theorem rest_ne_nil (hshown : (rest.take size).filter shown ≠ []) : rest ≠ [] := by
  rintro rfl
  simp at hshown

/-- Where the loop stops at a page that shows nothing, that page is blind if it is full and a
doomed item lies behind. -/
theorem Standing.clears_iff_of_hidden (hstanding : Standing size doomed page items done rest)
    (hdoomed : ∀ item, doomed item = true → shown item = true)
    (hhidden : (rest.take size).filter shown = []) :
    (∀ item ∈ items, doomed item = false) ↔ ¬ Blind size shown doomed rest := by
  have hsplit := List.take_append_drop size rest
  have hunseen : ∀ item ∈ rest.take size, shown item = false := fun item hmem => by
    simpa using List.filter_eq_nil_iff.mp hhidden item hmem
  have hclean : ∀ item ∈ rest.take size, doomed item = false := fun item hmem =>
    Bool.eq_false_iff.mpr fun hgone => by
      have hvisible := hdoomed item hgone
      rw [hunseen item hmem] at hvisible
      exact absurd hvisible (by decide)
  refine ⟨fun hall => not_blind_of_clean fun item hmem =>
    hall item (hstanding.parts ▸ List.mem_append_right _ hmem), fun hblind item hmem => ?_⟩
  rw [hstanding.parts, ← hsplit] at hmem
  rcases List.mem_append.mp hmem with hmem | hmem
  · exact hstanding.clean item hmem
  rcases List.mem_append.mp hmem with hmem | hmem
  · exact hclean item hmem
  · refine Bool.eq_false_iff.mpr fun hgone => hblind ?_
    rw [← hsplit]
    refine blind_of_hidden (List.length_take_of_le ?_) hclean hunseen ⟨item, hmem, hgone⟩
    have hpositive := List.length_pos_of_mem hmem
    rw [List.length_drop] at hpositive
    omega

/-- A page that shows something and holds no doomed item can be passed over. -/
theorem blind_drop_iff (hshown : (rest.take size).filter shown ≠ [])
    (hgone : (rest.take size).filter doomed = []) :
    Blind size shown doomed (rest.drop size) ↔ Blind size shown doomed rest := by
  have hclean : ∀ item ∈ rest.take size, doomed item = false := fun item hmem => by
    simpa using List.filter_eq_nil_iff.mp hgone item hmem
  obtain ⟨item, hitem⟩ := List.exists_mem_of_ne_nil _ hshown
  by_cases hlong : size ≤ rest.length
  · have hblind := blind_append_iff (rest.drop size) (List.length_take_of_le hlong)
      hclean ⟨item, List.mem_filter.mp hitem⟩
    rw [List.take_append_drop] at hblind
    exact hblind.symm
  · -- the last page
    rw [List.take_of_length_le (by omega)] at hclean
    rw [List.drop_eq_nil_of_le (by omega)]
    exact iff_of_false (not_blind_of_clean nofun) (not_blind_of_clean hclean)

/-- The doomed items of a page may be taken out of it. -/
theorem blind_kept_iff :
    Blind size shown doomed (kept doomed (rest.take size) ++ rest.drop size) ↔
      Blind size shown doomed rest := by
  have hsplit := List.take_append_drop size rest
  have hkept : kept doomed (kept doomed (rest.take size)) = kept doomed (rest.take size) := by
    rw [kept, kept, List.filter_filter]
    simp
  have hlength : (rest.take size).length ≤ size := List.length_take_le _ _
  constructor
  · intro hblind
    rw [← hsplit]
    exact hblind.replace ((List.length_filter_le _ _).trans hlength) hkept.symm
  · intro hblind
    rw [← hsplit] at hblind
    exact hblind.replace hlength hkept

end Standing

section Sweep

variable [DecidableEq A]

def remove (gone items : List A) : List A := items.filter (· ∉ gone)

/-- The loop, with a limit on the number of pages it reads. -/
def sweep (size : ℕ) (shown doomed : A → Bool) : ℕ → ℕ → List A → Swept A
  | 0, _, items => ⟨items, 0, false⟩
  | limit + 1, page, items =>
      if (pageOf size page items).filter shown = [] then ⟨items, 0, true⟩
      else
        let gone := (pageOf size page items).filter doomed
        if gone = [] then sweep size shown doomed limit (page + 1) items
        else
          let rest := sweep size shown doomed limit page (remove gone items)
          { rest with removed := gone.length + rest.removed }

variable {size : ℕ} {shown doomed : A → Bool} {items done rest : List A} {limit page : ℕ}

theorem remove_append (gone left right : List A) :
    remove gone (left ++ right) = remove gone left ++ remove gone right :=
  List.filter_append ..

theorem remove_eq_self {gone : List A} (hdisjoint : gone.Disjoint items) :
    remove gone items = items :=
  List.filter_eq_self.mpr fun _ hmem => by simpa using fun hgone => hdisjoint hgone hmem

theorem remove_remove (first second items : List A) :
    remove second (remove first items) = remove (first ++ second) items := by
  rw [remove, remove, remove, List.filter_filter]
  exact List.filter_congr fun item _ => by simp [Bool.and_comm]

theorem sweep_stop (hshown : (pageOf size page items).filter shown = []) :
    sweep size shown doomed (limit + 1) page items = ⟨items, 0, true⟩ := by
  rw [sweep, if_pos hshown]

theorem sweep_next (hshown : (pageOf size page items).filter shown ≠ [])
    (hgone : (pageOf size page items).filter doomed = []) :
    sweep size shown doomed (limit + 1) page items =
      sweep size shown doomed limit (page + 1) items := by
  rw [sweep, if_neg hshown]
  exact if_pos hgone

theorem sweep_again (hshown : (pageOf size page items).filter shown ≠ [])
    (hgone : (pageOf size page items).filter doomed ≠ []) :
    sweep size shown doomed (limit + 1) page items =
      { sweep size shown doomed limit page
          (remove ((pageOf size page items).filter doomed) items) with
        removed := ((pageOf size page items).filter doomed).length +
          (sweep size shown doomed limit page
            (remove ((pageOf size page items).filter doomed) items)).removed } := by
  rw [sweep, if_neg hshown]
  exact if_neg hgone

/-- Only doomed items are removed, each of them once, and they are counted. -/
theorem sweep_removes (size limit page : ℕ) (shown doomed : A → Bool) (hnodup : items.Nodup) :
    ∃ gone : List A, gone.Nodup ∧ (∀ item ∈ gone, item ∈ items ∧ doomed item = true) ∧
      (sweep size shown doomed limit page items).remaining = remove gone items ∧
        (sweep size shown doomed limit page items).removed = gone.length := by
  induction limit generalizing page items with
  | zero => exact ⟨[], List.nodup_nil, nofun, by simp [sweep, remove], rfl⟩
  | succ limit ih =>
      by_cases hshown : (pageOf size page items).filter shown = []
      · rw [sweep_stop hshown]
        exact ⟨[], List.nodup_nil, nofun, (remove_eq_self (List.disjoint_nil_left _)).symm, rfl⟩
      by_cases hgone : (pageOf size page items).filter doomed = []
      · rw [sweep_next hshown hgone]
        exact ih (page + 1) hnodup
      · rw [sweep_again hshown hgone]
        obtain ⟨later, hlater, hmembers, hremaining, hremoved⟩ :=
          ih page (hnodup.filter (· ∉ (pageOf size page items).filter doomed))
        have hsublist := pageOf_sublist size page items
        refine ⟨(pageOf size page items).filter doomed ++ later, ?_, ?_, ?_, ?_⟩
        · refine List.nodup_append'.mpr ⟨(hsublist.nodup hnodup).filter _, hlater, ?_⟩
          intro item hfirst hsecond
          exact of_decide_eq_true (List.mem_filter.mp (hmembers item hsecond).1).2 hfirst
        · intro item hmem
          rcases List.mem_append.mp hmem with hmem | hmem
          · obtain ⟨hpage, hdoomed⟩ := List.mem_filter.mp hmem
            exact ⟨hsublist.subset hpage, hdoomed⟩
          · obtain ⟨hitem, hdoomed⟩ := hmembers item hmem
            exact ⟨List.mem_of_mem_filter hitem, hdoomed⟩
        · rw [← remove_remove]
          exact hremaining
        · rw [List.length_append, ← hremoved]
          rfl

theorem Standing.again (hstanding : Standing size doomed page items done rest)
    (hrest : rest ≠ []) :
    Standing size doomed page (remove ((rest.take size).filter doomed) items) done
      (kept doomed (rest.take size) ++ rest.drop size) := by
  have hnodup := hstanding.nodup
  rw [hstanding.parts, ← List.take_append_drop size rest] at hnodup
  obtain ⟨-, hrestNodup, hbefore⟩ := List.nodup_append'.mp hnodup
  obtain ⟨-, -, hbehind⟩ := List.nodup_append'.mp hrestNodup
  have hdone : remove ((rest.take size).filter doomed) done = done :=
    remove_eq_self fun _ hgone hmem =>
      hbefore hmem (List.mem_append_left _ (List.mem_of_mem_filter hgone))
  have htail : remove ((rest.take size).filter doomed) (rest.drop size) = rest.drop size :=
    remove_eq_self fun _ hgone hmem => hbehind (List.mem_of_mem_filter hgone) hmem
  have hpage : remove ((rest.take size).filter doomed) (rest.take size) =
      kept doomed (rest.take size) :=
    List.filter_congr fun item hmem => by simp [hmem]
  have hparts : remove ((rest.take size).filter doomed) items =
      done ++ (kept doomed (rest.take size) ++ rest.drop size) := by
    rw [hstanding.parts, remove_append, hdone, ← hpage, ← congrArg (_ ++ ·) htail,
      ← remove_append, List.take_append_drop]
  exact ⟨hstanding.nodup.filter _, hparts,
    by rw [hparts, ← hstanding.length_done hrest, List.drop_left], hstanding.clean⟩

/-- A loop that may read more pages than there are items comes to its end. -/
theorem sweep_finished (hsize : 0 < size)
    (hstanding : Standing size doomed page items done rest) (hlimit : rest.length < limit) :
    (sweep size shown doomed limit page items).finished = true := by
  induction limit generalizing page items done rest with
  | zero => exact absurd hlimit (Nat.not_lt_zero _)
  | succ limit ih =>
      by_cases hshown : (pageOf size page items).filter shown = []
      · rw [sweep_stop hshown]
      have hrest : rest ≠ [] := rest_ne_nil (hstanding.pageOf_eq ▸ hshown)
      have hpositive := List.length_pos_of_ne_nil hrest
      by_cases hgone : (pageOf size page items).filter doomed = []
      · rw [sweep_next hshown hgone]
        refine ih (hstanding.next (hstanding.pageOf_eq ▸ hgone)) ?_
        rw [List.length_drop]
        omega
      · rw [sweep_again hshown hgone]
        rw [hstanding.pageOf_eq] at hgone ⊢
        refine ih (hstanding.again hrest) ?_
        have hshorter : (kept doomed (rest.take size)).length < (rest.take size).length := by
          refine lt_of_le_of_ne (List.length_filter_le _ _) fun hequal => hgone ?_
          refine List.filter_eq_nil_iff.mpr fun item hmem => ?_
          simpa using List.length_filter_eq_length_iff.mp hequal item hmem
        have hlength := congrArg List.length (List.take_append_drop size rest)
        rw [List.length_append] at hlength ⊢
        omega

/-- A loop that came to its end has left no doomed item exactly if no page was blind. -/
theorem sweep_clears_iff (hdoomed : ∀ item, doomed item = true → shown item = true)
    (hstanding : Standing size doomed page items done rest)
    (hfinished : (sweep size shown doomed limit page items).finished = true) :
    (∀ item ∈ (sweep size shown doomed limit page items).remaining, doomed item = false) ↔
      ¬ Blind size shown doomed rest := by
  induction limit generalizing page items done rest with
  | zero => exact absurd hfinished (by simp [sweep])
  | succ limit ih =>
      have hpage := hstanding.pageOf_eq
      by_cases hshown : (pageOf size page items).filter shown = []
      · rw [sweep_stop hshown]
        exact hstanding.clears_iff_of_hidden hdoomed (hpage ▸ hshown)
      by_cases hgone : (pageOf size page items).filter doomed = []
      · rw [sweep_next hshown hgone] at hfinished ⊢
        rw [hpage] at hshown hgone
        rw [ih (hstanding.next hgone) hfinished, not_iff_not]
        exact blind_drop_iff hshown hgone
      · rw [sweep_again hshown hgone] at hfinished ⊢
        rw [hpage] at hshown hfinished ⊢
        rw [ih (hstanding.again (rest_ne_nil hshown)) hfinished, not_iff_not]
        exact blind_kept_iff

/-- The loop removes exactly the doomed items, and counts them, unless a page is blind. -/
theorem sweep_exact_iff (hdoomed : ∀ item, doomed item = true → shown item = true)
    (hnodup : items.Nodup)
    (hfinished : (sweep size shown doomed limit 0 items).finished = true) :
    ((sweep size shown doomed limit 0 items).remaining = kept doomed items ∧
        (sweep size shown doomed limit 0 items).removed = items.countP doomed) ↔
      ¬ Blind size shown doomed items := by
  rw [← sweep_clears_iff hdoomed (standing_start hnodup) hfinished]
  obtain ⟨gone, hgone, hmembers, hremaining, hremoved⟩ :=
    sweep_removes size limit 0 shown doomed hnodup
  rw [hremaining, hremoved]
  constructor
  · rintro ⟨hkept, -⟩ item hmem
    rw [hkept] at hmem
    simpa using (List.mem_filter.mp hmem).2
  · intro hclean
    have hall : ∀ item, item ∈ gone ↔ item ∈ items.filter doomed := by
      intro item
      rw [List.mem_filter]
      refine ⟨hmembers item, fun ⟨hmem, hitem⟩ => ?_⟩
      by_contra hnot
      have hleft : item ∈ remove gone items := List.mem_filter.mpr ⟨hmem, by simpa using hnot⟩
      rw [hclean item hleft] at hitem
      exact absurd hitem (by decide)
    constructor
    · refine List.filter_congr fun item hmem => ?_
      simp [hall item, hmem]
    · rw [List.countP_eq_length_filter]
      exact ((List.perm_ext_iff_of_nodup hgone (hnodup.filter _)).mpr hall).length_eq

end Sweep

end Relayer.PagedSweep
