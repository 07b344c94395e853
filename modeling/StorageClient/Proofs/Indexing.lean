import StorageClient.Effect
/-!
# StorageClient.Proofs.Indexing

Computations that index into lists without asking whether there is anything.

The functions of this library say what they do where there is no element, since they have to say
something. Whether that is ever needed is a question about them. It is asked by stating a function a
second time as an `Indexed` computation, which has no result at all if an index is out of range. If
that computation is the function itself (`liftM`), then none of its indices is.
-/

namespace StorageClient

instance : LawfulMonad Traced :=
  LawfulMonad.mk' Traced (fun x => Traced.bind_pure x) (fun a f => Traced.pure_bind a f)
    (fun x f g => Traced.bind_assoc x f g)

@[simp] theorem Traced.value_map {α β : Type} (f : α → β) (x : Traced α) :
    (f <$> x).value = f x.value := rfl

@[simp] theorem Traced.effects_map {α β : Type} (f : α → β) (x : Traced α) :
    (f <$> x).effects = x.effects := List.append_nil _

/-- A computation with effects that comes to nothing at an index out of range. -/
abbrev Indexed := OptionT Traced

namespace Indexed

variable {α β : Type}

/-- The element at a place. -/
def nth (things : List α) (place : Nat) : Indexed α := OptionT.mk (pure things[place]?)

/-- An element is written to a place. -/
def put (things : List α) (place : Nat) (thing : α) : Indexed (List α) :=
  if place < things.length then pure (things.set place thing) else failure

/-- A level as a number of sixteen bits, if it is one. -/
def narrow (level : Nat) : Indexed UInt16 :=
  if level < UInt16.size then pure (UInt16.ofNat level) else failure

/-- What does not index can be had as it is. -/
theorem pure_eq (a : α) : (pure a : Indexed α) = liftM (pure a : Traced α) := (liftM_pure a).symm

theorem bind_eq (x : Traced α) (f : α → Traced β) :
    ((liftM x : Indexed α) >>= fun a => liftM (f a)) = liftM (x >>= f) := (liftM_bind x f).symm

theorem run_liftM (x : Traced α) :
    (liftM x : Indexed α).run = x >>= fun a => pure (some a) := rfl

theorem eq_liftM {x : Indexed α} {y : Traced α} (hvalue : x.run.value = some y.value)
    (heffects : x.run.effects = y.effects) : x = liftM y :=
  OptionT.ext (Traced.ext (by simpa [run_liftM] using hvalue) (by simpa [run_liftM] using heffects))

/-- Only what is done with the value that is found matters. -/
theorem bind_of_value {x : Traced α} {next : α → Indexed β} {y : Traced β}
    (hfound : next x.value = liftM y) : (liftM x >>= next) = liftM (x >>= fun _ => y) := by
  have hnext : (next x.value).run = y >>= fun b => pure (some b) := by rw [hfound, run_liftM]
  refine eq_liftM ?_ ?_ <;> rw [OptionT.run_bind, run_liftM] <;> simp [Option.elimM, hnext]

theorem nth_of_some {things : List α} {place : Nat} {thing : α}
    (h : things[place]? = some thing) : nth things place = pure thing := by
  rw [nth, h]
  rfl

theorem put_of_lt {things : List α} {place : Nat} (h : place < things.length) (thing : α) :
    put things place thing = pure (things.set place thing) := if_pos h

theorem narrow_of_lt {level : Nat} (h : level < UInt16.size) :
    narrow level = pure (UInt16.ofNat level) := if_pos h

end Indexed

/-! ### Checks -/

section Checks

variable {ε α β : Type} {m : Type → Type} [Monad m]

theorem ofExcept_ok (a : α) : (ofExcept (.ok a : Except ε α) : ExceptT ε m α) = pure a := rfl

theorem run_ofExcept (x : Except ε α) : (ofExcept x : ExceptT ε m α).run = pure x := by
  cases x <;> rfl

variable [LawfulMonad m]

theorem ofExcept_bind (x : Except ε α) (f : α → Except ε β) :
    (ofExcept (x >>= f) : ExceptT ε m β) = ofExcept x >>= fun a => ofExcept (f a) := by
  cases x with
  | error e =>
    refine ExceptT.ext ?_
    rw [ExceptT.run_bind, run_ofExcept, run_ofExcept, pure_bind]
    rfl
  | ok a => exact (pure_bind a fun a => ofExcept (f a)).symm

/-- Checks that pass or fail as others do, one by one, also do one after the other. -/
theorem forM_eq_ofExcept {things : List α} {check : α → Except ε Unit}
    {checkAt : α → ExceptT ε m Unit} (hsame : ∀ a ∈ things, checkAt a = ofExcept (check a)) :
    things.forM checkAt = ofExcept (things.forM check) := by
  induction things with
  | nil => rfl
  | cons first rest ih =>
    change (checkAt first >>= fun _ => rest.forM checkAt) =
      ofExcept (check first >>= fun _ => rest.forM check)
    rw [ofExcept_bind, hsame first List.mem_cons_self]
    exact congrArg _ (funext fun _ => ih fun a hmem => hsame a (List.mem_cons_of_mem first hmem))

end Checks

end StorageClient
