import AiGateway.Cache.Service
import Std.Data.String.ToNat

/-!
# The keys of the cache

`get_hasher` of `middleware/cache/service.rs`. A key is the decimal text of a 64-bit hash: the
seed, the path with the query, the body and the number of the bucket are written to the hasher
one after the other, each as its `Hash` implementation writes it.

The hasher is a parameter, a function of what is written to it.

* `keyWrites_inj`: what is written tells the seed, the path, the body and the bucket apart;
* `key_eq_iff`: two keys are equal exactly when the hashes are.
-/

namespace AiGateway.Cache

/-- A call to a `Hasher`. -/
inductive Write
  | bytes (bytes : Bytes)
  | u8 (byte : UInt8)
  | usize (n : ℕ)
  deriving DecidableEq

def utf8 (s : String) : Bytes := s.toUTF8.data.toList

/-- `Hash` of a `str`: its bytes, closed by one that no text has. -/
def hashStr (s : String) : List Write := [.bytes (utf8 s), .u8 255]

/-- `Hash` of a slice of bytes, which is that of `Bytes`: the length and the bytes. -/
def hashSlice (bytes : Bytes) : List Write := [.usize bytes.length, .bytes bytes]

/-- `Hash` of a `PathAndQuery`. -/
def hashPathAndQuery (pathAndQuery : String) : List Write := hashSlice (utf8 pathAndQuery)

/-- `if let Some(value)`: what is not there is not written. -/
def writeSome {α : Type} (write : α → List Write) : Option α → List Write
  | some value => write value
  | none => []

/-- What `get_hasher` writes. -/
def getHasher (pathAndQuery : Option String) (body : Bytes) (seed : Option String) : List Write :=
  writeSome hashStr seed ++ (writeSome hashPathAndQuery pathAndQuery ++ hashSlice body)

/-- What is written for a bucket. -/
def keyWrites (seed pathAndQuery : Option String) (body : Bytes) (bucket : UInt8) : List Write :=
  getHasher pathAndQuery body seed ++ [.u8 bucket]

/-- The key of a bucket. -/
def key (hash : List Write → UInt64) (seed pathAndQuery : Option String) (body : Bytes)
    (bucket : UInt8) : String :=
  (hash (keyWrites seed pathAndQuery body bucket)).toNat.repr

/-! ### What is written -/

theorem utf8_inj {s t : String} : utf8 s = utf8 t ↔ s = t := by
  unfold utf8
  rw [Array.toList_inj, ← ByteArray.ext_iff, String.toUTF8_eq_toByteArray,
    String.toUTF8_eq_toByteArray, String.toByteArray_inj]

variable {seed seed' pathAndQuery pathAndQuery' : Option String} {body body' : Bytes}
  {bucket bucket' : UInt8}

theorem hashStr_append_inj {s t : String} {l l' : List Write} :
    hashStr s ++ l = hashStr t ++ l' ↔ s = t ∧ l = l' := by
  simp [hashStr, utf8_inj]

theorem hashSlice_append_inj {l l' : List Write} :
    hashSlice body ++ l = hashSlice body' ++ l' ↔ body = body' ∧ l = l' := by
  simp only [hashSlice, List.cons_append, List.nil_append, List.cons.injEq, Write.usize.injEq,
    Write.bytes.injEq]
  exact ⟨fun h => h.2, fun h => ⟨congrArg List.length h.1, h⟩⟩

/-- Where the path is missing, the writes are too few. -/
theorem path_writes_inj
    (h : writeSome hashPathAndQuery pathAndQuery ++ (hashSlice body ++ [.u8 bucket]) =
      writeSome hashPathAndQuery pathAndQuery' ++ (hashSlice body' ++ [.u8 bucket'])) :
    pathAndQuery = pathAndQuery' ∧ body = body' ∧ bucket = bucket' := by
  have hlength := congrArg List.length h
  cases pathAndQuery with
  | none =>
    cases pathAndQuery' with
    | none =>
      obtain ⟨hbody, hbucket⟩ := hashSlice_append_inj.mp h
      exact ⟨rfl, hbody, by simpa using hbucket⟩
    | some pq' => simp [writeSome, hashPathAndQuery, hashSlice] at hlength
  | some pq =>
    cases pathAndQuery' with
    | none => simp [writeSome, hashPathAndQuery, hashSlice] at hlength
    | some pq' =>
      obtain ⟨hpath, h⟩ := hashSlice_append_inj.mp h
      obtain ⟨hbody, hbucket⟩ := hashSlice_append_inj.mp h
      exact ⟨congrArg some (utf8_inj.mp hpath), hbody, by simpa using hbucket⟩

/-- **What is written tells everything apart**: no two of the seed, the path, the body and the
bucket are written alike, whether they are there or not. -/
theorem keyWrites_inj :
    keyWrites seed pathAndQuery body bucket = keyWrites seed' pathAndQuery' body' bucket' ↔
      seed = seed' ∧ pathAndQuery = pathAndQuery' ∧ body = body' ∧ bucket = bucket' := by
  constructor
  · intro h
    unfold keyWrites getHasher at h
    rw [List.append_assoc, List.append_assoc, List.append_assoc, List.append_assoc] at h
    cases seed with
    | none =>
      cases seed' with
      | none => exact ⟨rfl, path_writes_inj h⟩
      | some s' => cases pathAndQuery <;> cases h
    | some s =>
      cases seed' with
      | none => cases pathAndQuery' <;> cases h
      | some s' =>
        obtain ⟨hseed, h⟩ := hashStr_append_inj.mp h
        exact ⟨congrArg some hseed, path_writes_inj h⟩
  · rintro ⟨rfl, rfl, rfl, rfl⟩
    rfl

/-- Two keys are equal exactly when the hashes are. -/
theorem key_eq_iff {hash : List Write → UInt64} :
    key hash seed pathAndQuery body bucket = key hash seed' pathAndQuery' body' bucket' ↔
      hash (keyWrites seed pathAndQuery body bucket) =
        hash (keyWrites seed' pathAndQuery' body' bucket') := by
  unfold key
  rw [Nat.repr_inj, UInt64.toNat_inj]

end AiGateway.Cache
