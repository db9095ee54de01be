import Looplet.Proofs.FileSystem

/-!
# What removing a file changes

    fs.remove path = .ok fs' → ∃ e, fs'.findLink path = .error e           (findLink_remove)

Paths may lead to the entry that is removed, or through it if it is a link. Those that do so lead
nowhere afterwards, and all others lead where they led before (`walk_clear`). So what is gone does
not come back when another file is removed (`Gone.without`).
-/

namespace Looplet.FileSystem

variable {fs fs' : FileSystem} {p q : Place} {followLast : Bool}

/-! ## Places -/

theorem lookup_filter_of_ne (h : q ≠ p) (l : List (Place × Entry)) :
    (l.filter fun e => e.1 ≠ p).lookup q = l.lookup q := by
  induction l with
  | nil => rfl
  | cons a l ih =>
    obtain ⟨r, d⟩ := a
    by_cases hr : r = p
    · have hq : (q == p) = false := by simpa using h
      simp [hr, List.lookup_cons, hq, ← ih]
    · simp [hr, List.lookup_cons, ← ih]

theorem lookup_filter_self (p : Place) (l : List (Place × Entry)) :
    (l.filter fun e => e.1 ≠ p).lookup p = none := by
  rw [List.lookup_eq_none_iff]
  rintro ⟨q, e⟩ he
  rw [List.mem_filter, decide_eq_true_iff] at he
  simpa using fun h => he.2 h.symm

theorem get?_clear_of_ne (h : q ≠ p) : (fs.clear p).get? q = fs.get? q := by
  simp only [get?, clear, lookup_filter_of_ne h]
  rfl

theorem get?_clear_self (h : p ≠ []) : (fs.clear p).get? p = none := by
  simp only [get?, clear, h, if_false, lookup_filter_self, Option.map_none]

/-! ## Paths -/

/-- Nothing exists where a path leads, if it leads anywhere. -/
def Fruitless (r : Except SystemError Target) : Prop :=
  ∃ e, (r >>= Target.existing) = .error e

theorem fruitless_error (e : SystemError) : Fruitless (.error e) := ⟨e, rfl⟩

theorem fruitless_free (p : Place) : Fruitless (.ok (.free p)) := ⟨.noEntry, rfl⟩

/-- A walk from directory to directory leads where it led before, or finds nothing any more. -/
theorem walkWith_clear (hp : p ≠ []) {jump jump' : Place → List String → Except SystemError Target}
    (hjump : ∀ here ps, jump' here ps = jump here ps ∨ Fruitless (jump' here ps)) (here : Place)
    (ps : List String) :
    (fs.clear p).walkWith jump' followLast here ps = fs.walkWith jump followLast here ps ∨
      Fruitless ((fs.clear p).walkWith jump' followLast here ps) := by
  induction ps generalizing here with
  | nil =>
    by_cases hhere : here = p
    · rw [walkWith, hhere, get?_clear_self hp]
      exact .inr (fruitless_error _)
    · rw [walkWith, walkWith, get?_clear_of_ne hhere]
      exact .inl rfl
  | cons part rest ih =>
    by_cases hhere : here = p
    · have hsearch : (fs.clear p).allows here .execute = false := by
        rw [FileSystem.allows, hhere, get?_clear_self hp]
      rw [walkWith, hsearch]
      exact .inr (fruitless_error _)
    have hsearch : (fs.clear p).allows here .execute = fs.allows here .execute := by
      rw [FileSystem.allows, FileSystem.allows, get?_clear_of_ne hhere]
    rw [walkWith, walkWith, hsearch]
    split
    · exact .inl rfl
    split
    · exact ih here
    split
    · exact ih here.dropLast
    split
    · exact .inl rfl
    by_cases hplace : here ++ [part] = p
    · -- here the walk comes to the entry that is no more
      rw [hplace, get?_clear_self hp]
      refine .inr ?_
      dsimp only
      split
      · exact fruitless_free p
      · exact fruitless_error _
    rw [get?_clear_of_ne hplace]
    split
    · split
      · split
        · exact .inl rfl
        split
        · exact .inl rfl
        · exact hjump ..
      split
      · exact ih (here ++ [part])
      · exact .inl rfl
    · exact .inl rfl

theorem walk_clear (hp : p ≠ []) (links : Nat) (here : Place) (ps : List String) :
    (fs.clear p).walk followLast links here ps = fs.walk followLast links here ps ∨
      Fruitless ((fs.clear p).walk followLast links here ps) := by
  induction links generalizing here ps with
  | zero => exact .inl rfl
  | succ links ih =>
    rw [walk, walk]
    exact walkWith_clear hp ih here ps

theorem locateLink_clear (fs : FileSystem) (hp : p ≠ []) (path : String) :
    (fs.clear p).locateLink path = fs.locateLink path ∨
      Fruitless ((fs.clear p).locateLink path) := by
  rw [locateLink, locateLink, followWith, followWith]
  split
  · exact .inl rfl
  split
  · exact .inl rfl
  · exact walk_clear hp ..

/-! ## Removal -/

/-- Removing takes away one entry, which is no directory. -/
theorem remove_eq_ok {path : String} : fs.remove path = .ok fs' ↔
    ∃ p e, fs.findLink path = .ok (p, e) ∧ e.isDirectory = false ∧ isFixed p = false ∧
      fs.allows p.dropLast .write = true ∧ fs' = fs.clear p := by
  rw [remove]
  constructor
  · intro h
    split at h
    · cases h
    next p e hfind =>
    split at h
    · cases h
    next hdirectory =>
    split at h
    · cases h
    next hfixed =>
    split at h
    · next hwrite =>
      cases h
      exact ⟨p, e, hfind, Bool.eq_false_of_not_eq_true hdirectory,
        Bool.eq_false_of_not_eq_true hfixed, hwrite, rfl⟩
    · cases h
  · rintro ⟨p, e, hfind, hdirectory, hfixed, hwrite, rfl⟩
    simp [hfind, hdirectory, hfixed, hwrite]

theorem locateLink_of_findLink {path : String} {e : Entry} (h : fs.findLink path = .ok (p, e)) :
    fs.locateLink path = .ok (.entry p e) := by
  rw [findLink] at h
  cases hlocate : fs.locateLink path with
  | error err =>
    rw [hlocate] at h
    cases h
  | ok t =>
    rw [hlocate] at h
    cases t with
    | entry q d =>
      cases h
      rfl
    | free q => cases h

theorem ne_nil_of_findLink {path : String} {e : Entry} (h : fs.findLink path = .ok (p, e))
    (hdirectory : e.isDirectory = false) : p ≠ [] := by
  have hstands : fs.get? p = some e := stands_of_follow (locateLink_of_findLink h)
  rintro rfl
  cases hstands
  cases hdirectory

/-- A removed file is not found any more. -/
theorem findLink_remove {path : String} (h : fs.remove path = .ok fs') :
    ∃ e, fs'.findLink path = .error e := by
  obtain ⟨p, e, hfind, hdirectory, -, -, rfl⟩ := remove_eq_ok.mp h
  have hp := ne_nil_of_findLink hfind hdirectory
  rcases locateLink_clear fs hp path with hsame | hfruitless
  · rw [locateLink_of_findLink hfind] at hsame
    have hstands : (fs.clear p).get? p = some e := stands_of_follow hsame
    cases (get?_clear_self hp).symm.trans hstands
  · exact hfruitless

theorem without_cases (fs : FileSystem) (path : String) :
    (∃ e, fs.remove path = .error e ∧ fs.without path = fs) ∨
      fs.remove path = .ok (fs.without path) := by
  rw [without]
  cases fs.remove path with
  | error e => exact .inl ⟨e, rfl, rfl⟩
  | ok fs' => exact .inr rfl

@[simp] theorem cwd_without (fs : FileSystem) (path : String) :
    (fs.without path).cwd = fs.cwd := by
  rcases without_cases fs path with ⟨-, -, hsame⟩ | hremove
  · rw [hsame]
  · obtain ⟨p, e, -, -, -, -, hclear⟩ := remove_eq_ok.mp hremove
    rw [hclear, clear]

/-- What is at any other place stays there. -/
theorem get?_without (fs : FileSystem) (path : String) (q : Place) :
    (fs.without path).get? q = fs.get? q ∨ ∃ e, fs.findLink path = .ok (q, e) := by
  rcases without_cases fs path with ⟨-, -, hsame⟩ | hremove
  · rw [hsame]
    exact .inl rfl
  · obtain ⟨p, e, hfind, -, -, -, hclear⟩ := remove_eq_ok.mp hremove
    rw [hclear]
    by_cases hplace : q = p
    · rw [hplace]
      exact .inr ⟨e, hfind⟩
    · exact .inl (get?_clear_of_ne hplace)

/-- Nothing is at a path but a directory, or what the user may not take away. -/
def Gone (fs : FileSystem) (path : String) : Prop :=
  ∀ p e, fs.findLink path = .ok (p, e) →
    e.isDirectory = true ∨ isFixed p = true ∨ fs.allows p.dropLast .write = false

theorem gone_without (fs : FileSystem) (path : String) : (fs.without path).Gone path := by
  intro p e h
  rcases without_cases fs path with ⟨err, herror, hsame⟩ | hremove
  · rw [hsame] at h ⊢
    by_contra hkept
    simp only [not_or, Bool.not_eq_true, Bool.not_eq_false] at hkept
    have hok := remove_eq_ok.mpr ⟨p, e, h, hkept.1, hkept.2.1, hkept.2.2, rfl⟩
    cases herror.symm.trans hok
  · obtain ⟨err, herror⟩ := findLink_remove hremove
    cases herror.symm.trans h

/-- What is gone does not come back when another file is removed. -/
theorem Gone.without {path : String} (h : fs.Gone path) (other : String) :
    (fs.without other).Gone path := by
  rcases without_cases fs other with ⟨-, -, hsame⟩ | hremove
  · rwa [hsame]
  obtain ⟨q, d, hother, hdirectory, -, -, hclear⟩ := remove_eq_ok.mp hremove
  have hq := ne_nil_of_findLink hother hdirectory
  rw [hclear]
  intro p e hfind
  rcases locateLink_clear fs hq path with hsame | ⟨err, hfruitless⟩
  · rw [findLink, hsame] at hfind
    refine (h p e hfind).imp_right fun hkept => hkept.imp_right fun hwrite => ?_
    by_cases hplace : p.dropLast = q
    · rw [FileSystem.allows, hplace, get?_clear_self hq]
    · rwa [FileSystem.allows, get?_clear_of_ne hplace]
  · cases hfruitless.symm.trans hfind

end Looplet.FileSystem
