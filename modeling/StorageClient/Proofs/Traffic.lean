import StorageClient.Effect
/-!
# StorageClient.Proofs.Traffic

The calls among effects, and how many there are of a kind. Lines and counts are left out, and polls
of a cursor are, because there may be any number of them. Where counts and polls matter, only the
lines are left out (`Effect.acts`).
-/

namespace StorageClient.Effect

/-! ### Calls among effects -/

/-- Whether an effect is a call on a transaction, or closes a cursor. -/
def isTraffic : Effect → Bool
  | .transaction _ | .cursor .close => true
  | _ => false

/-- The calls on transactions, and those that close cursors. -/
def traffic (effects : List Effect) : List Effect := effects.filter isTraffic

@[simp] theorem traffic_nil : traffic [] = [] := rfl

@[simp] theorem traffic_append (a b : List Effect) : traffic (a ++ b) = traffic a ++ traffic b := by
  simp [traffic]

@[simp] theorem traffic_line (l : Line) (rest : List Effect) :
    traffic (.line l :: rest) = traffic rest := rfl

@[simp] theorem traffic_count (c : Counter) (n : Nat) (rest : List Effect) :
    traffic (.count c n :: rest) = traffic rest := rfl

@[simp] theorem traffic_poll (rest : List Effect) :
    traffic (.cursor .poll :: rest) = traffic rest := rfl

@[simp] theorem traffic_close (rest : List Effect) :
    traffic (.cursor .close :: rest) = .cursor .close :: traffic rest := rfl

@[simp] theorem traffic_transaction (call : TransactionCall) (rest : List Effect) :
    traffic (.transaction call :: rest) = .transaction call :: traffic rest := rfl

/-! ### Everything but lines -/

def isLine : Effect → Bool
  | .line _ => true
  | _ => false

/-- What happens outside apart from logging. -/
def acts (effects : List Effect) : List Effect := effects.filter fun effect => !effect.isLine

@[simp] theorem acts_nil : acts [] = [] := rfl

@[simp] theorem acts_append (a b : List Effect) : acts (a ++ b) = acts a ++ acts b := by
  simp [acts]

@[simp] theorem acts_line (l : Line) (rest : List Effect) : acts (.line l :: rest) = acts rest :=
  rfl

@[simp] theorem acts_count (c : Counter) (n : Nat) (rest : List Effect) :
    acts (.count c n :: rest) = .count c n :: acts rest := rfl

@[simp] theorem acts_transaction (call : TransactionCall) (rest : List Effect) :
    acts (.transaction call :: rest) = .transaction call :: acts rest := rfl

@[simp] theorem acts_cursor (call : Cursor.Call) (rest : List Effect) :
    acts (.cursor call :: rest) = .cursor call :: acts rest := rfl

@[simp] theorem acts_lines (lines : List Line) : acts (lines.map .line) = [] := by
  induction lines with
  | nil => rfl
  | cons line rest ih => rwa [List.map_cons, acts_line]

@[simp] theorem traffic_acts (effects : List Effect) :
    traffic (acts effects) = traffic effects := by
  rw [traffic, traffic, acts, List.filter_filter]
  refine List.filter_congr fun effect _ => ?_
  cases effect <;> simp [isLine, isTraffic]

@[simp] theorem total_acts (counter : Counter) (effects : List Effect) :
    total counter (acts effects) = total counter effects := by
  induction effects with
  | nil => rfl
  | cons effect rest ih => cases effect <;> simp [ih, growth]

/-! ### Counting calls -/

/-- Whether an engine made a cursor. -/
def makesCursor : Effect → Bool
  | .transaction (.createQuery _ (.returned (.ok _))) => true
  | _ => false

/-- Whether a round trip was made, whatever came of it. -/
def makesTrip : Effect → Bool
  | .transaction (.execute ..) => true
  | _ => false

def closesCursor : Effect → Bool
  | .cursor .close => true
  | _ => false

/-- How many cursors were made. -/
def made (effects : List Effect) : Nat := effects.countP makesCursor

/-- How many round trips were made. -/
def trips (effects : List Effect) : Nat := effects.countP makesTrip

/-- How many times a cursor was closed. -/
def closed (effects : List Effect) : Nat := effects.countP closesCursor

theorem countP_traffic {p : Effect → Bool} (h : ∀ effect, p effect = true → effect.isTraffic = true)
    (effects : List Effect) : (traffic effects).countP p = effects.countP p := by
  rw [traffic, List.countP_filter]
  refine List.countP_congr fun effect _ => ?_
  simpa using h effect

@[simp] theorem made_traffic (effects : List Effect) : made (traffic effects) = made effects :=
  countP_traffic (fun effect h => by cases effect <;> simp_all [makesCursor, isTraffic]) effects

@[simp] theorem trips_traffic (effects : List Effect) : trips (traffic effects) = trips effects :=
  countP_traffic (fun effect h => by cases effect <;> simp_all [makesTrip, isTraffic]) effects

@[simp] theorem closed_traffic (effects : List Effect) :
    closed (traffic effects) = closed effects := by
  refine countP_traffic (fun effect h => ?_) effects
  unfold closesCursor at h
  split at h
  · rfl
  · exact nomatch h

@[simp] theorem made_append (a b : List Effect) : made (a ++ b) = made a + made b :=
  List.countP_append

@[simp] theorem trips_append (a b : List Effect) : trips (a ++ b) = trips a + trips b :=
  List.countP_append

@[simp] theorem trips_nil : trips [] = 0 := rfl

@[simp] theorem trips_line (l : Line) (rest : List Effect) :
    trips (.line l :: rest) = trips rest := rfl

@[simp] theorem trips_lines (lines : List Line) : trips (lines.map .line) = 0 := by
  induction lines with
  | nil => rfl
  | cons line rest ih => rwa [List.map_cons, trips_line]

/-- A round trip is a call on a transaction. -/
theorem trips_eq_zero {effects : List Effect} (h : transactionCalls effects = []) :
    trips effects = 0 := by
  refine List.countP_eq_zero.mpr fun effect heffect htrip => ?_
  cases effect with
  | transaction call =>
    have hcall : call ∈ transactionCalls effects := List.mem_filterMap.mpr ⟨_, heffect, rfl⟩
    rw [h] at hcall
    exact nomatch hcall
  | line => exact nomatch htrip
  | count => exact nomatch htrip
  | cursor => exact nomatch htrip

@[simp] theorem closed_append (a b : List Effect) : closed (a ++ b) = closed a + closed b :=
  List.countP_append

end StorageClient.Effect
