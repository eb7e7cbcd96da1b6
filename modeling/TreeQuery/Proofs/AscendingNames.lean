import Mathlib.Data.List.Lex
import Mathlib.Data.String.Basic
import TreeQuery.Proofs.Fragments

/-!
# Names in ascending order

Names are compared by their characters.  Since UTF-8 keeps the order of code points,
this is the order of their bytes.  Binding keeps the names of bindings in ascending
order, and bindings that are bound anew in this order come out as they were.
-/

namespace TreeQuery

/-! ## The order of bytes -/

namespace Text

open String (utf8EncodeChar)

def bytes (text : String) : List UInt8 := text.toUTF8.data.toList

theorem byte_lt {m n : Nat} (left : m < 256) (right : n < 256) :
    UInt8.ofNat m < UInt8.ofNat n ↔ m < n := by
  rw [UInt8.lt_iff_toNat_lt, UInt8.toNat_ofNat', UInt8.toNat_ofNat']
  omega

theorem byte_inj {m n : Nat} (left : m < 256) (right : n < 256) :
    UInt8.ofNat m = UInt8.ofNat n ↔ m = n := by
  rw [← UInt8.toNat_inj, UInt8.toNat_ofNat', UInt8.toNat_ofNat']
  omega

/-- The bytes of two characters differ before either of them ends. -/
theorem encode_lt {c d : Char} (less : c < d) (left right : List UInt8) :
    utf8EncodeChar c ++ left < utf8EncodeChar d ++ right := by
  have values : c.toNat < d.toNat := less
  have bound : d.toNat < 0x110000 := by
    have valid := d.valid
    simp only [UInt32.isValidChar, Nat.isValidChar, Char.toNat_val] at valid
    omega
  -- the bytes behind the first are digits to the base 64
  have twice : ∀ n : Nat, n / 4096 = n / 64 / 64 := by omega
  have thrice : ∀ n : Nat, n / 262144 = n / 64 / 64 / 64 := by omega
  simp only [utf8EncodeChar, Char.toNat_val, twice, thrice]
  split_ifs <;>
    simp (disch := omega) only [List.cons_append, List.nil_append, List.cons_lt_cons_iff,
      byte_lt, byte_inj] <;>
    omega

theorem flatMap_encode_lt {left right : List Char} (less : left < right) :
    left.flatMap utf8EncodeChar < right.flatMap utf8EncodeChar := by
  induction less with
  | @nil c rest =>
      obtain ⟨first, others, encoded⟩ :=
        List.exists_cons_of_ne_nil (String.utf8EncodeChar_ne_nil (c := c))
      rw [List.flatMap_cons, encoded]
      exact List.nil_lt_cons ..
  | rel less => exact encode_lt less _ _
  | cons _ ih =>
      rw [List.flatMap_cons, List.flatMap_cons]
      exact List.append_left_lt ih

theorem bytes_lt {left right : String} (less : left < right) : bytes left < bytes right := by
  have encoded : ∀ text : String, bytes text = text.toList.flatMap utf8EncodeChar := by
    intro text
    rw [bytes, String.toUTF8, ← String.utf8Encode_toList, List.utf8Encode,
      List.data_toByteArray]
  rw [encoded, encoded]
  exact flatMap_encode_lt (String.lt_iff.mp less)

end Text

/-! ## Ascending bindings -/

namespace Bindings

def Ascending (bindings : Bindings) : Prop := bindings.names.Pairwise (· < ·)

theorem ascending_nil : Ascending [] := List.Pairwise.nil

theorem Ascending.nodup {bindings : Bindings} (ascending : bindings.Ascending) :
    bindings.names.Nodup :=
  ascending.imp fun less => ne_of_lt less

theorem Ascending.insert {bindings : Bindings} {name : String} {value : Json}
    (ascending : bindings.Ascending) (absent : name ∉ bindings.names) :
    (bindings.insert name value).Ascending := by
  induction bindings with
  | nil => exact List.pairwise_singleton _ _
  | cons entry rest ih =>
      obtain ⟨other, bound⟩ := entry
      obtain ⟨first, later⟩ := List.pairwise_cons.mp ascending
      simp only [names, List.map_cons, List.mem_cons, not_or] at absent
      simp only [Bindings.insert]
      split
      · rename_i less
        refine List.pairwise_cons.mpr ⟨fun listed member => ?_, ascending⟩
        rcases List.mem_cons.mp member with rfl | behind
        · exact less
        · exact less.trans (first listed behind)
      · rename_i notLess
        have less : other < name := lt_of_le_of_ne (not_lt.mp notLess) (Ne.symm absent.1)
        refine List.pairwise_cons.mpr ⟨fun listed member => ?_, ih later absent.2⟩
        rcases mem_names_insert.mp member with rfl | behind
        · exact less
        · exact first listed behind

theorem Ascending.bindAll {bindings : Bindings} (ascending : bindings.Ascending)
    (entries : List (String × Json)) : (bindings.bindAll entries).1.Ascending := by
  induction entries generalizing bindings with
  | nil => exact ascending
  | cons entry rest ih =>
      obtain ⟨name, value⟩ := entry
      simp only [Bindings.bindAll]
      split
      · exact ascending
      · rename_i unbound
        exact ih (ascending.insert fun bound => unbound (has_iff.mpr bound))

theorem insert_of_lt {bindings : Bindings} {name : String} {value : Json}
    (last : ∀ other ∈ bindings.names, other < name) :
    bindings.insert name value = bindings ++ [(name, value)] := by
  induction bindings with
  | nil => rfl
  | cons entry rest ih =>
      obtain ⟨other, bound⟩ := entry
      have less : other < name := last other List.mem_cons_self
      rw [Bindings.insert, if_neg (not_lt_of_gt less),
        ih fun listed member => last listed (List.mem_cons_of_mem _ member), List.cons_append]

theorem bindAll_of_ascending {bindings entries : Bindings}
    (ascending : Ascending (bindings ++ entries)) :
    bindings.bindAll entries = (bindings ++ entries, none) := by
  induction entries generalizing bindings with
  | nil => simp [bindAll]
  | cons entry rest ih =>
      obtain ⟨name, value⟩ := entry
      have last : ∀ other ∈ bindings.names, other < name := by
        intro other member
        rw [Ascending, names, List.map_append, List.pairwise_append] at ascending
        exact ascending.2.2 other member name List.mem_cons_self
      have unbound : bindings.has name ≠ true := fun bound =>
        lt_irrefl name (last name (has_iff.mp bound))
      rw [bindAll, if_neg unbound, insert_of_lt last, ih (by simpa using ascending)]
      simp

end Bindings

/-! ## Fragments -/

namespace Fragment

theorem reduce_ascending {fragments : List Fragment} {result : Fragment}
    (reduced : reduce fragments = .ok result) : result.values.Ascending := by
  refine reduce_induction (motive := fun _ result => result.values.Ascending)
    Bindings.ascending_nil ?_ reduced
  intro fragments fragment other result ascending merged
  obtain ⟨values, -, -, bound, rfl⟩ := merge_fields merged
  have kept := ascending.bindAll other.values
  rwa [bound] at kept

end Fragment

end TreeQuery
