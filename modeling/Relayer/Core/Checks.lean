import Mathlib

/-!
# Checks over lists

Validators run a check on each element of a list and stop at the first failure.
A run that succeeds has checked every element.
-/

namespace Relayer.Checks

variable {A Error : Type}

def checkAll (check : A → Except Error Unit) : List A → Except Error Unit
  | [] => .ok ()
  | head :: tail => check head >>= fun _ => checkAll check tail

/-- A single check that fails with the given error. -/
def require (condition : Bool) (error : Error) : Except Error Unit :=
  if condition then .ok () else .error error

theorem require_eq_ok_iff {condition : Bool} {error : Error} :
    require condition error = .ok () ↔ condition = true := by
  cases condition <;> simp [require]

theorem bind_eq_ok {A B : Type} {value : Except Error A} {next : A → Except Error B}
    {result : B} : value >>= next = .ok result ↔
      ∃ middle, value = .ok middle ∧ next middle = .ok result := by
  cases value with
  | error error => simp [Bind.bind, Except.bind]
  | ok middle => simp [Bind.bind, Except.bind]

/-- Rendering an error does not turn a failure into a success. -/
theorem ok_of_mapError {Rendered : Type} {value : Except Error A}
    {render : Error → Rendered} {result : A}
    (hok : value.mapError render = .ok result) : value = .ok result := by
  cases value with
  | error error => cases hok
  | ok middle =>
      cases hok
      rfl

theorem ok_of_toOption {value : Except Error A} {result : A}
    (hsome : value.toOption = some result) : value = .ok result := by
  cases value with
  | error error => cases hsome
  | ok middle => exact congrArg Except.ok (Option.some.inj hsome)

theorem exists_of_isOk {value : Except Error A} (hok : value.isOk = true) :
    ∃ result, value = .ok result := by
  cases value with
  | error error => cases hok
  | ok result => exact ⟨result, rfl⟩

theorem exists_of_map_eq_ok {B : Type} {value : Except Error A} {project : A → B} {image : B}
    (hmap : value.map project = .ok image) :
    ∃ result, value = .ok result ∧ project result = image := by
  cases value with
  | error error => cases hmap
  | ok result => exact ⟨result, rfl, Except.ok.inj hmap⟩

theorem checkAll_eq_ok_iff {check : A → Except Error Unit} {values : List A} :
    checkAll check values = .ok () ↔ ∀ value ∈ values, check value = .ok () := by
  induction values with
  | nil => simp [checkAll]
  | cons head tail ih =>
      rw [checkAll, bind_eq_ok, List.forall_mem_cons, ← ih]
      constructor
      · rintro ⟨⟨⟩, hhead, htail⟩
        exact ⟨hhead, htail⟩
      · rintro ⟨hhead, htail⟩
        exact ⟨(), hhead, htail⟩

/-- A fold that succeeds has succeeded at each element, from some state. -/
theorem exists_of_mem_foldlM {State : Type} {move : State → A → Except Error State}
    {values : List A} {state last : State} (hok : values.foldlM move state = .ok last) {value : A}
    (hmem : value ∈ values) : ∃ before after, move before value = .ok after := by
  induction values generalizing state with
  | nil => cases hmem
  | cons head tail ih =>
      rw [List.foldlM_cons] at hok
      obtain ⟨middle, hhead, hok⟩ := bind_eq_ok.mp hok
      rcases List.mem_cons.mp hmem with rfl | hlater
      · exact ⟨state, middle, hhead⟩
      · exact ih hok hlater

/-- A mapped computation that succeeds has succeeded on each element in turn. -/
theorem forall₂_of_mapM_eq_ok {B : Type} {convert : A → Except Error B} {values : List A}
    {results : List B} (hok : values.mapM convert = .ok results) :
    List.Forall₂ (fun value result => convert value = .ok result) values results := by
  induction values generalizing results with
  | nil =>
      cases hok
      exact .nil
  | cons head tail ih =>
      rw [List.mapM_cons] at hok
      obtain ⟨first, hhead, hok⟩ := bind_eq_ok.mp hok
      obtain ⟨rest, htail, hok⟩ := bind_eq_ok.mp hok
      cases hok
      exact .cons hhead (ih htail)

/-- A conversion that succeeds on every element. -/
theorem mapM_eq_ok_map {B : Type} {convert : A → Except Error B} {project : A → B}
    {values : List A} (hall : ∀ value ∈ values, convert value = .ok (project value)) :
    values.mapM convert = .ok (values.map project) := by
  induction values with
  | nil => rfl
  | cons head tail ih =>
      rw [List.forall_mem_cons] at hall
      rw [List.mapM_cons, hall.1, ih hall.2]
      rfl

theorem length_of_mapM_eq_ok {B : Type} {check : A → Except Error B} {values : List A}
    {results : List B} (hok : values.mapM check = .ok results) :
    results.length = values.length :=
  (forall₂_of_mapM_eq_ok hok).length_eq.symm

theorem filterMap_of_mapM_eq_ok {B : Type} {convert : A → Except Error B}
    {values : List A} {results : List B} (hok : values.mapM convert = .ok results) :
    (values.filterMap fun value => (convert value).toOption) = results := by
  have hall := forall₂_of_mapM_eq_ok hok
  clear hok
  induction hall with
  | nil => rfl
  | cons hhead _ ih =>
      rw [List.filterMap_cons, hhead, ih]
      rfl

end Relayer.Checks
