import WlanAdmin.Http.Error
import WlanAdmin.Http.Message

/-!
# WlanAdmin.Http.Wire

What travels between a client and a controller: single requests with their cookies, and answers
whose body arrives in pieces.
-/

namespace WlanAdmin

/-- A request on its way. -/
structure WireRequest where
  method : Method
  url : Url
  csrfToken : Option String := none
  contentType : Option String := none
  /-- Names and values of cookies. -/
  cookies : List (String × String) := []
  body : Bytes := []
  deriving DecidableEq, Repr

/-- A body as it arrives. -/
structure WireBody where
  /-- The length that was announced. -/
  declared : Option Nat := none
  chunks : List Bytes := []
  /-- Whether the connection breaks off after the last piece. -/
  broken : Bool := false
  deriving DecidableEq, Repr

structure WireAnswer where
  status : Nat := 200
  /-- Where to go instead. -/
  location : Option String := none
  /-- The cookies that are set, as they are written. -/
  setCookies : List String := []
  body : WireBody := {}
  deriving DecidableEq, Repr

/-- A body that is being read: what has been gathered of it, and the pieces that are to come. -/
structure WireBody.Reading where
  gathered : Bytes := []
  coming : List Bytes := []
  broken : Bool := false
  deriving DecidableEq, Repr

namespace WireBody.Reading

/-- Gathers the next piece, or ends the reading: the pieces are over, or the next one would cross
the limit. -/
def step (limit : Nat) (reading : Reading) : Reading ⊕ Except TransportError Bytes :=
  match reading.coming with
  | [] => .inr (if reading.broken then .error .http else .ok reading.gathered)
  | chunk :: rest =>
    if limit < reading.gathered.length + chunk.length then .inr (.error (.bodyTooLarge limit))
    else .inl { reading with gathered := reading.gathered ++ chunk, coming := rest }

theorem exists_chunk_of_step {limit : Nat} {reading next : Reading}
    (h : reading.step limit = .inl next) : ∃ chunk, reading.coming = chunk :: next.coming ∧
      reading.gathered.length + chunk.length ≤ limit ∧
      next.gathered = reading.gathered ++ chunk ∧ next.broken = reading.broken := by
  unfold step at h
  split at h
  · cases h
  · next chunk rest coming_eq =>
    split at h
    · cases h
    · next within =>
      cases h
      exact ⟨chunk, coming_eq, Nat.le_of_not_lt within, rfl, rfl⟩

/-- Steps to the end. -/
@[semireducible]
def run (limit : Nat) (reading : Reading) : Except TransportError Bytes :=
  match _stepped : reading.step limit with
  | .inl next => next.run limit
  | .inr result => result
termination_by reading.coming.length
decreasing_by
  obtain ⟨chunk, coming_eq, -⟩ := exists_chunk_of_step _stepped
  simp [coming_eq]

end WireBody.Reading

/-- Starts to read a body, unless it is announced as too large. -/
def WireBody.opened (limit : Nat) (body : WireBody) : Except TransportError Reading :=
  if body.declared.any (limit < ·) then .error (.bodyTooLarge limit)
  else .ok { coming := body.chunks, broken := body.broken }

/-- Reads a body to its end. One that is announced as too large is not read at all. -/
def WireBody.read (limit : Nat) (body : WireBody) : Except TransportError Bytes := do
  let reading ← body.opened limit
  reading.run limit

end WlanAdmin
