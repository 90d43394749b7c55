import Veepin.Core.Bytes

/-!
# Octet streams

What a reader of a stream is handed: the stream comes in results of any length, none of them empty,
and ends with an error, which a read may return together with the last octets.  A result that does
not fit the reader's buffer is handed over in parts.
-/

namespace Veepin

variable {ε : Type*}

/-- The reads to come. -/
structure Source (ε : Type*) where
  results : List Bytes
  err : ε
  /-- The error is returned with the last octets, not after them. -/
  early : Bool
  ne_nil : ∀ r ∈ results, r ≠ []

/-- The octets to come. -/
def Source.octets (s : Source ε) : Bytes := s.results.flatten

/-- `Read` into a buffer of `room` octets. -/
def Source.read (s : Source ε) (room : ℕ) : Bytes × Option ε × Source ε :=
  match h : s.results with
  | [] => ([], some s.err, s)
  | r :: rs =>
    if hr : r.length ≤ room then
      (r, if s.early ∧ rs = [] then some s.err else none,
        { s with results := rs, ne_nil := fun x hx => s.ne_nil x (by simp [h, hx]) })
    else
      (r.take room, none,
        { s with
          results := r.drop room :: rs
          ne_nil := fun x hx => by
            rcases List.mem_cons.mp hx with rfl | hx
            · exact List.ne_nil_of_length_pos (by rw [List.length_drop]; omega)
            · exact s.ne_nil x (by simp [h, hx]) })

/-- What a read into a buffer that has room leads to. -/
structure Source.Reads (s : Source ε) (room : ℕ) (bs : Bytes) (e : Option ε) (s' : Source ε) :
    Prop where
  octets : bs ++ s'.octets = s.octets
  le : bs.length ≤ room
  err : s'.err = s.err
  /-- Without an error there are octets. -/
  some_octets : e = none → bs ≠ []
  /-- With an error there are no more. -/
  last : ∀ x, e = some x → x = s.err ∧ s'.results = []

lemma Source.read_spec (s : Source ε) {room : ℕ} (hroom : 0 < room) :
    s.Reads room (s.read room).1 (s.read room).2.1 (s.read room).2.2 := by
  unfold Source.read
  split
  · rename_i h
    exact ⟨rfl, Nat.zero_le _, rfl, nofun, fun x hx => ⟨(Option.some.inj hx).symm, h⟩⟩
  rename_i r rs h
  have hr : r ≠ [] := s.ne_nil r (by simp [h])
  split_ifs with hle he
  · exact ⟨by simp [Source.octets, h], hle, rfl, nofun,
      fun x hx => ⟨(Option.some.inj hx).symm, he.2⟩⟩
  · exact ⟨by simp [Source.octets, h], hle, rfl, fun _ => hr, nofun⟩
  · refine ⟨?_, List.length_take_le _ _, rfl, fun _ => ?_, nofun⟩
    · simp only [Source.octets, h, List.flatten_cons, ← List.append_assoc, List.take_append_drop]
    · exact List.ne_nil_of_length_pos (by rw [List.length_take]; omega)

lemma Source.octets_of_results {s : Source ε} (h : s.results = []) : s.octets = [] := by
  rw [Source.octets, h]
  rfl

end Veepin
