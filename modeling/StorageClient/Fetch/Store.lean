import StorageClient.Effect
import StorageClient.Fetch.Buffer
import StorageClient.Fetch.Error
import StorageClient.Telemetry.Event
/-!
# StorageClient.Fetch.Store

The rows that were fetched, in the order in which they were found. A stored row is a *header*: the
level it belongs to, a tag, and a copy of its image. The tag joins the flags of the level with a
bit for NULL. The image of a header can be taken out once; the header stays.

A store has room for a number of headers that doubles whenever a header finds it full, and never
shrinks.

Memory may be refused (`Memory`), be it for more room or for the copy of an image. Then a header is
not stored, and the store says why (`storeValue`, `storeNull`). What the store does where memory is
never short is `push`.
-/

namespace StorageClient

/-- A stored row. -/
structure Header where
  depth : UInt16
  tag : UInt16
  /-- The row image; missing from NULL rows and once it was taken. -/
  data : Option Bytes
  deriving Repr, DecidableEq

namespace Header

/-- The bit of the tag that marks NULL rows. -/
def nullBit : UInt16 := 1

def value (depth flags : UInt16) (image : Bytes) : Header :=
  ⟨depth, flags &&& ~~~nullBit, some image⟩

/-- The header of a NULL row. -/
def null (depth flags : UInt16) : Header := ⟨depth, flags ||| nullBit, none⟩

/-- Whether the row is NULL. The tag tells, not the lack of an image. -/
def isNull (header : Header) : Bool := header.tag &&& nullBit != 0

/-- The flags of the level. -/
def flags (header : Header) : UInt16 := header.tag &&& ~~~nullBit

/-- Whether the level only links other levels. -/
def isJoinOnly (header : Header) : Bool := header.tag &&& RowBuffer.joinFlag != 0

end Header

/-- The rows that were fetched. -/
structure ResultStore where
  headers : Array Header
  /-- How many headers there is room for. -/
  capacity : Nat
  deriving Repr, DecidableEq

/-- What a store asks memory for. -/
inductive Allocation
  /-- Room for so many headers. -/
  | headers (room : Nat)
  /-- A copy of an image of so many octets. -/
  | image (size : Nat)
  deriving Repr, DecidableEq

/-- Memory. What it grants may depend on all that was stored so far. -/
class Memory where
  grants : ResultStore → Allocation → Bool

/-- Memory that is never short. -/
instance Memory.ample : Memory := ⟨fun _ _ => true⟩

namespace ResultStore

/-- The room of a store when nothing else was asked for. -/
def defaultCapacity : Nat := 1024

/-- An empty store with room for at least one header. That memory can address the room asked for,
less than `2 ^ 63` octets, is taken for granted; with more there would be no store at all. -/
def new (capacity : Nat) : ResultStore := ⟨#[], max capacity 1⟩

/-- The number of headers. -/
def size (store : ResultStore) : Nat := store.headers.size

/-- The header of a place. -/
def get? (store : ResultStore) (index : Nat) : Option Header := store.headers[index]?

/-- Makes room for one more header. It takes as much memory as it needs. -/
def reserve [Sink] (store : ResultStore) : Traced ResultStore :=
  if store.size = store.capacity then do
    let capacity := store.capacity * 2
    Traced.count .headerGrowths
    Traced.log <| Event.headerArrayGrown.line [
      ("from", .text (toString store.capacity)),
      ("to", .text (toString capacity))]
    return { store with capacity }
  else return store

/-- Adds a header at the end. -/
def push [Sink] (store : ResultStore) (header : Header) : Traced ResultStore := do
  let store ← store.reserve
  return { store with headers := store.headers.push header }

/-- Adds a copy of a row image. -/
def pushValue [Sink] (store : ResultStore) (depth flags : UInt16) (image : Bytes) :
    Traced ResultStore :=
  store.push (.value depth flags image)

/-- Adds a NULL row. -/
def pushNull [Sink] (store : ResultStore) (depth flags : UInt16) : Traced ResultStore :=
  store.push (.null depth flags)

/-! ### Where memory may be refused -/

/-- The octets of a header, without its image. -/
def headerSize : Nat := 24

/-- Makes room for one more header, if memory is granted. The size of a request that was refused is
told as a word, the largest one if it does not fit. -/
def makeRoom [Memory] [Sink] (store : ResultStore) :
    Traced (Except FetchError Unit × ResultStore) :=
  let room := store.capacity * 2
  if store.size = store.capacity ∧ Memory.grants store (.headers room) = false then
    let size := min (room * headerSize) (UInt64.size - 1)
    return (.error (.allocationFailed "result headers" size), store)
  else return (.ok (), ← store.reserve)

/-- Adds a copy of a row image, and yields its place. If there is room but no memory for the copy,
the room stays. -/
def storeValue [Memory] [Sink] (store : ResultStore) (depth flags : UInt16) (image : Bytes) :
    Traced (Except FetchError Nat × ResultStore) := do
  match ← store.makeRoom with
  | (.error error, store) => return (.error error, store)
  | (.ok (), store) =>
    if Memory.grants store (.image image.length) then
      let store := { store with headers := store.headers.push (.value depth flags image) }
      return (.ok (store.size - 1), store)
    else return (.error (.allocationFailed "row copy" image.length), store)

/-- Adds a NULL row. -/
def storeNull [Memory] [Sink] (store : ResultStore) (depth flags : UInt16) :
    Traced (Except FetchError Unit × ResultStore) := do
  match ← store.makeRoom with
  | (.error error, store) => return (.error error, store)
  | (.ok (), store) =>
    return (.ok (), { store with headers := store.headers.push (.null depth flags) })

/-- Drops the headers from a place on. The room stays. -/
def truncate (store : ResultStore) (size : Nat) : ResultStore :=
  { store with headers := store.headers.take size }

/-! ### Reading -/

/-- Takes the image of a header out of the store. -/
def takeData (store : ResultStore) (index : Nat) : Option Bytes × ResultStore :=
  ((store.get? index).bind Header.data,
    { store with headers := store.headers.modify index fun header => { header with data := none } })

/-- The headers of the levels that a user wants to see. -/
def visible (store : ResultStore) : List Header :=
  store.headers.toList.filter fun header => !header.isJoinOnly

@[simp] theorem headers_reserve (store : ResultStore) :
    store.reserve.value.headers = store.headers := by
  unfold reserve
  split <;> rfl

/-- A push adds its header at the end, whether or not the store had to grow. -/
@[simp] theorem headers_push (store : ResultStore) (header : Header) :
    (store.push header).value.headers = store.headers.push header := by
  unfold push reserve
  split <;> simp

/-- Taking an image changes neither the number of headers nor the room for them. -/
@[simp] theorem size_takeData (store : ResultStore) (index : Nat) :
    (store.takeData index).2.size = store.size := by
  simp [takeData, size]

end ResultStore

end StorageClient
