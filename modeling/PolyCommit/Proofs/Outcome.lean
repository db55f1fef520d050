import PolyCommit.Error
import Mathlib.Data.List.Forall2

/-!
# Computations that may fail

How a computation that succeeds came to its result: a sequence of two through the result of the
first, and a traversal of a list through the results at its entries. What holds of the result, and
what of the failure, is likewise found part by part.
-/

namespace PolyCommit

variable {ε α β : Type}

/-- A result is handed on. -/
@[simp] theorem ok_bind (a : α) (f : α → Except ε β) : (Except.ok a >>= f) = f a := rfl

/-- A failure ends a sequence. -/
@[simp] theorem error_bind (e : ε) (f : α → Except ε β) : (Except.error e >>= f) = .error e := rfl

/-- A sequence of two computations succeeds through the result of the first. -/
theorem bind_eq_ok_iff {x : Except ε α} {f : α → Except ε β} {b : β} :
    (x >>= f) = .ok b ↔ ∃ a, x = .ok a ∧ f a = .ok b := by
  cases x with
  | error e => exact iff_of_false nofun nofun
  | ok a => exact ⟨fun h => ⟨a, rfl, h⟩, fun ⟨_, ha, h⟩ => by cases ha; exact h⟩

/-- Whether a property holds of the result of a computation, if there is one. -/
def Yields (P : α → Prop) (x : Except ε α) : Prop := ∀ a, x = .ok a → P a

/-- What holds of a result holds of the computation that returns it. -/
theorem Yields.ok {P : α → Prop} {a : α} (h : P a) : Yields P (.ok a : Except ε α) :=
  fun _ ha => Except.ok.inj ha ▸ h

/-- Anything holds of the results of a failure. -/
theorem Yields.error {P : α → Prop} {e : ε} : Yields P (.error e) := nofun

/-- What holds of every result of the second computation holds of the sequence. -/
theorem Yields.bind {P : β → Prop} {x : Except ε α} {f : α → Except ε β}
    (h : ∀ a, Yields P (f a)) : Yields P (x >>= f) := by
  intro b hb
  obtain ⟨a, -, hb⟩ := bind_eq_ok_iff.mp hb
  exact h a b hb

/-- What holds of every result at the entries holds of all entries of a traversal's result. -/
theorem Yields.mapM {P : β → Prop} {f : α → Except ε β} {xs : List α}
    (h : ∀ x, Yields P (f x)) : Yields (fun ys => ∀ y ∈ ys, P y) (xs.mapM f) := by
  induction xs with
  | nil => exact .ok nofun
  | cons x xs ih =>
    intro zs hzs
    rw [List.mapM_cons] at hzs
    obtain ⟨y, hy, hzs⟩ := bind_eq_ok_iff.mp hzs
    obtain ⟨ys, hys, hzs⟩ := bind_eq_ok_iff.mp hzs
    rw [← Except.ok.inj hzs]
    exact List.forall_mem_cons.mpr ⟨h x y hy, ih ys hys⟩

/-- Whether a property holds of the failure of a computation, if it fails. -/
def Fails (P : ε → Prop) (x : Except ε α) : Prop := ∀ e, x = .error e → P e

/-- Anything holds of the failures of a result. -/
theorem Fails.ok {P : ε → Prop} {a : α} : Fails P (.ok a : Except ε α) := nofun

/-- What holds of a failure holds of the computation that fails so. -/
theorem Fails.error {P : ε → Prop} {e : ε} (h : P e) : Fails P (.error e : Except ε α) :=
  fun _ he => Except.error.inj he ▸ h

/-- A property of failures can be weakened. -/
theorem Fails.imp {P Q : ε → Prop} {x : Except ε α} (h : Fails P x) (hPQ : ∀ e, P e → Q e) :
    Fails Q x :=
  fun e he => hPQ e (h e he)

/-- A sequence of two computations fails as one of them does. -/
theorem Fails.bind {P : ε → Prop} {x : Except ε α} {f : α → Except ε β} (hx : Fails P x)
    (hf : ∀ a, x = .ok a → Fails P (f a)) : Fails P (x >>= f) := by
  cases x with
  | error e => exact .error (hx e rfl)
  | ok a => exact hf a rfl

/-- A traversal fails as the computation at one of the entries does. -/
theorem Fails.mapM {P : ε → Prop} {f : α → Except ε β} {xs : List α}
    (h : ∀ x ∈ xs, Fails P (f x)) : Fails P (xs.mapM f) := by
  induction xs with
  | nil => exact .ok
  | cons x xs ih =>
    rw [List.mapM_cons]
    exact .bind (h x List.mem_cons_self) fun _ _ =>
      .bind (ih fun y hy => h y (List.mem_cons_of_mem x hy)) fun _ _ => .ok

/-- A traversal succeeds through the results at all entries. -/
theorem mapM_eq_ok_iff {f : α → Except ε β} {xs : List α} {ys : List β} :
    xs.mapM f = .ok ys ↔ List.Forall₂ (fun x y => f x = .ok y) xs ys := by
  induction xs generalizing ys with
  | nil =>
    rw [List.mapM_nil, List.forall₂_nil_left_iff]
    exact ⟨fun h => (Except.ok.inj h).symm, fun h => by rw [h]; rfl⟩
  | cons x xs ih =>
    rw [List.mapM_cons, bind_eq_ok_iff, List.forall₂_cons_left_iff]
    constructor
    · rintro ⟨y, hy, hrest⟩
      obtain ⟨ys', hys, hrest⟩ := bind_eq_ok_iff.mp hrest
      exact ⟨y, ys', hy, ih.mp hys, (Except.ok.inj hrest).symm⟩
    · rintro ⟨y, ys', hy, hys, rfl⟩
      exact ⟨y, hy, bind_eq_ok_iff.mpr ⟨ys', ih.mpr hys, rfl⟩⟩

/-- A list is read back from what was written for it, if its entries are. -/
theorem mapM_map_eq_ok {γ : Type} {read : β → Except ε γ} {write : γ → β} {as : List γ}
    (h : ∀ a ∈ as, read (write a) = .ok a) : (as.map write).mapM read = .ok as :=
  mapM_eq_ok_iff.mpr (List.forall₂_map_left_iff.mpr (List.forall₂_same.mpr h))

/-- A traversal succeeds if the computation does at every entry. -/
theorem exists_mapM_eq_ok {f : α → Except ε β} {xs : List α} (h : ∀ x ∈ xs, ∃ y, f x = .ok y) :
    ∃ ys, xs.mapM f = .ok ys := by
  induction xs with
  | nil => exact ⟨[], rfl⟩
  | cons x xs ih =>
    obtain ⟨y, hy⟩ := h x List.mem_cons_self
    obtain ⟨ys, hys⟩ := ih fun x' hx' => h x' (List.mem_cons_of_mem x hx')
    exact ⟨y :: ys, mapM_eq_ok_iff.mpr (.cons hy (mapM_eq_ok_iff.mp hys))⟩

/-- A traversal that fails has a first entry where the computation fails. -/
theorem exists_of_mapM_eq_error {f : α → Except ε β} {xs : List α} {e : ε}
    (h : xs.mapM f = .error e) : ∃ before x after, xs = before ++ x :: after ∧
      (∀ w ∈ before, ∃ y, f w = .ok y) ∧ f x = .error e := by
  induction xs with
  | nil => cases h
  | cons x xs ih =>
    rw [List.mapM_cons] at h
    cases hx : f x with
    | error e' =>
      rw [hx] at h
      cases h
      exact ⟨[], x, xs, rfl, nofun, hx⟩
    | ok y =>
      rw [hx, ok_bind] at h
      have hrest : xs.mapM f = .error e := by
        cases hys : xs.mapM f with
        | error e' =>
          rw [hys] at h
          exact h
        | ok ys =>
          rw [hys] at h
          cases h
      obtain ⟨before, x', after, rfl, hbefore, hfail⟩ := ih hrest
      exact ⟨x :: before, x', after, rfl, List.forall_mem_cons.mpr ⟨⟨y, hx⟩, hbefore⟩, hfail⟩

/-- A traversal fails as the computation does at the first entry where it fails. -/
theorem mapM_eq_error_iff {f : α → Except ε β} {xs : List α} {e : ε} :
    xs.mapM f = .error e ↔ ∃ before x after, xs = before ++ x :: after ∧
      (∀ w ∈ before, ∃ y, f w = .ok y) ∧ f x = .error e := by
  refine ⟨exists_of_mapM_eq_error, ?_⟩
  rintro ⟨before, x, after, rfl, hbefore, hfail⟩
  obtain ⟨ys, hys⟩ := exists_mapM_eq_ok hbefore
  rw [List.mapM_append, hys, ok_bind, List.mapM_cons, hfail]
  rfl

/-- A fold succeeds if every step does, whatever came before. -/
theorem exists_foldlM_eq_ok {f : β → α → Except ε β} {xs : List α}
    (h : ∀ b, ∀ x ∈ xs, ∃ c, f b x = .ok c) (b : β) : ∃ c, xs.foldlM f b = .ok c := by
  induction xs generalizing b with
  | nil => exact ⟨b, rfl⟩
  | cons x xs ih =>
    obtain ⟨c, hc⟩ := h b x List.mem_cons_self
    obtain ⟨d, hd⟩ := ih (fun b x' hx' => h b x' (List.mem_cons_of_mem x hx')) c
    exact ⟨d, by rw [List.foldlM_cons, hc, ok_bind, hd]⟩

/-- Steps that agree at the entries lead to the same result. -/
theorem foldlM_congr {f g : β → α → Except ε β} {xs : List α}
    (h : ∀ b, ∀ x ∈ xs, f b x = g b x) (b : β) : xs.foldlM f b = xs.foldlM g b := by
  induction xs generalizing b with
  | nil => rfl
  | cons x xs ih =>
    rw [List.foldlM_cons, List.foldlM_cons, h b x List.mem_cons_self]
    congr 1
    funext c
    exact ih (fun b x' hx' => h b x' (List.mem_cons_of_mem x hx')) c

/-- A traversal for its effects succeeds if the computation does at every entry. -/
theorem forM_eq_ok {f : α → Except ε PUnit} {xs : List α} (h : ∀ x ∈ xs, f x = .ok ()) :
    xs.forM f = .ok () := by
  induction xs with
  | nil => rfl
  | cons x xs ih =>
    change (f x >>= fun _ => xs.forM f) = .ok ()
    rw [h x List.mem_cons_self, ok_bind]
    exact ih fun x' hx' => h x' (List.mem_cons_of_mem x hx')

/-- Whether a failure says that an input is malformed. -/
def Failure.IsMalformed (f : Failure) : Prop := ∃ reason, f = malformed reason

/-- Whether a failure is a refusal, and not a fault. -/
def Failure.IsRefused (f : Failure) : Prop := ∃ r, f = refused r

/-- A malformed input is refused. -/
theorem Failure.IsMalformed.isRefused (f : Failure) (h : f.IsMalformed) : f.IsRefused := by
  obtain ⟨reason, rfl⟩ := h
  exact ⟨.malformed reason, rfl⟩

/-! ### Quoting -/

/-- A refusal that can be written is made. -/
theorem Failure.quoting_eq {r : Refusal} (h : r.isWritable = true) : quoting r = refused r :=
  if_pos h

/-- A refusal that cannot be written ends as a fault. -/
theorem Failure.quoting_eq_badValue {r : Refusal} (h : r.isWritable = false) :
    quoting r = .badValue :=
  if_neg (by rw [h]; exact Bool.false_ne_true)

/-- A computation that fails by quoting what is malformed fails as malformed or for the quoting. -/
theorem Failure.quoting_malformed (reason : Malformed) :
    (quoting (.malformed reason)).IsMalformed ∨
      quoting (.malformed reason) = .badValue ∧ reason.isWritable = false := by
  cases h : reason.isWritable with
  | true => exact .inl ⟨reason, quoting_eq h⟩
  | false => exact .inr ⟨quoting_eq_badValue h, rfl⟩

/-- Whether a computation is refused, and with which kind of refusal. -/
def Refuses (kind : String) (x : Except Failure α) : Prop :=
  ∃ r : Refusal, x = .error (.refused r) ∧ r.kind = kind

/-- A result is no refusal. -/
theorem not_refuses_ok (kind : String) (a : α) : ¬Refuses kind (.ok a) := nofun

/-- A refusal has one kind. -/
theorem Refuses.not_refuses {kind kind' : String} {x : Except Failure α} (h : Refuses kind x)
    (hne : kind' ≠ kind) : ¬Refuses kind' x := by
  rintro ⟨r', hr', rfl⟩
  obtain ⟨r, rfl, rfl⟩ := h
  cases hr'
  exact hne rfl

end PolyCommit
