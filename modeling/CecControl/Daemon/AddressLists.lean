/-
# Address lists

`parseLogicalAddressList` reads the addresses to wake and to switch off. It asks `std::stoi` for
the number at the beginning of an entry and not how far that number goes, so an entry that goes on
after its number selects the address all the same. Where no entry does, the list is read exactly.
-/

import CecControl.Daemon.AppConfig

namespace CecControl

/-! ## Entries -/

/-- The entries of a list. -/
def addressEntries (input : Text) : List Text := input.splitOn ','

/-- The entry begins with the address, whatever follows its last digit. -/
def BeginsWith (entry : Text) (a : Fin 16) : Prop :=
  ∃ number rest, entry = number ++ rest ∧ IsInteger number a ∧ NoDigit rest

/-- Reading pieces drops an empty one at the most. -/
theorem mem_getlines_iff {delimiter : Char} {text piece : Text} (hpiece : piece ≠ []) :
    piece ∈ getlines delimiter text ↔ piece ∈ text.splitOn delimiter := by
  unfold getlines
  dsimp only
  by_cases hlast : (text.splitOn delimiter).getLast? = some []
  · rw [if_pos hlast]
    have hparts := List.dropLast_append_getLast? [] hlast
    constructor
    · intro hmem
      exact (List.dropLast_sublist _).subset hmem
    · intro hmem
      rw [← hparts, List.mem_append, List.mem_singleton] at hmem
      exact hmem.resolve_right hpiece
  · rw [if_neg hlast]

/-- What `std::stoi` answers for an entry is what the entry begins with. -/
theorem beginsWith_iff_stoi {entry : Text} {a : Fin 16} :
    BeginsWith entry a ↔ ∃ consumed, stoi entry = .ok ((a : ℤ), consumed) := by
  constructor
  · rintro ⟨number, rest, hentry, hnumber, hrest⟩
    have ha := a.isLt
    refine ⟨number.length, stoi_eq_ok_iff.mpr ⟨⟨number, rest, hentry, rfl, hnumber, hrest⟩, ?_⟩⟩
    omega
  · rintro ⟨consumed, hstoi⟩
    obtain ⟨⟨number, rest, hentry, -, hnumber, hrest⟩, -⟩ := stoi_eq_ok_iff.mp hstoi
    exact ⟨number, rest, hentry, hnumber, hrest⟩

/-! ## What is selected -/

/-- An entry adds the address it begins with. -/
theorem addLogicalAddress_iff (addrs : LogicalAddresses) (entry : Text) (a : Fin 16) :
    addLogicalAddress addrs entry a = true ↔ addrs a = true ∨ BeginsWith entry a := by
  rw [beginsWith_iff_stoi]
  unfold addLogicalAddress
  cases hstoi : stoi entry with
  | error e => simp
  | ok read =>
      obtain ⟨id, consumed⟩ := read
      dsimp only
      by_cases hid : 0 ≤ id ∧ id ≤ 15
      · rw [dif_pos hid]
        have hset : (∃ n, (Except.ok (id, consumed) : Except StoiError (ℤ × ℕ)) = .ok ((a : ℤ), n)) ↔
            a = ⟨id.toNat, by omega⟩ := by
          rw [Fin.ext_iff]
          constructor
          · rintro ⟨n, h⟩
            cases h
            exact (Int.toNat_natCast a).symm
          · intro h
            refine ⟨consumed, ?_⟩
            rw [h, Int.toNat_of_nonneg hid.1]
        rw [hset, LogicalAddresses.set]
        by_cases ha : a = ⟨id.toNat, by omega⟩
        · simp [ha]
        · simp [ha]
      · rw [dif_neg hid]
        constructor
        · exact Or.inl
        · rintro (h | ⟨n, h⟩)
          · exact h
          · cases h
            have ha := a.isLt
            omega

theorem foldl_addLogicalAddress_iff (entries : List Text) (addrs : LogicalAddresses) (a : Fin 16) :
    entries.foldl addLogicalAddress addrs a = true ↔
      addrs a = true ∨ ∃ entry ∈ entries, BeginsWith entry a := by
  induction entries generalizing addrs with
  | nil => simp
  | cons entry entries ih =>
      rw [List.foldl_cons, ih, addLogicalAddress_iff, List.exists_mem_cons_iff, or_assoc]

/-- No address begins an empty entry. -/
theorem ne_nil_of_beginsWith {entry : Text} {a : Fin 16} (h : BeginsWith entry a) : entry ≠ [] := by
  rintro rfl
  obtain ⟨consumed, hstoi⟩ := beginsWith_iff_stoi.mp h
  cases hstoi

/-- The mask holds the addresses the entries begin with. -/
theorem parseLogicalAddressList_iff (input : Text) (a : Fin 16) :
    parseLogicalAddressList input a = true ↔ ∃ entry ∈ addressEntries input, BeginsWith entry a := by
  unfold parseLogicalAddressList
  rw [foldl_addLogicalAddress_iff]
  constructor
  · rintro (h | ⟨entry, hmem, hbegins⟩)
    · cases h
    · exact ⟨entry, (mem_getlines_iff (ne_nil_of_beginsWith hbegins)).mp hmem, hbegins⟩
  · rintro ⟨entry, hmem, hbegins⟩
    exact .inr ⟨entry, (mem_getlines_iff (ne_nil_of_beginsWith hbegins)).mpr hmem, hbegins⟩

example : (List.finRange 16).filter (parseLogicalAddressList "0, 5,x,16,,0".toList) = [0, 5] := by
  decide

/-- So neither order nor repetition matters. -/
theorem parseLogicalAddressList_congr {input other : Text}
    (h : ∀ entry, entry ∈ addressEntries other ↔ entry ∈ addressEntries input) :
    parseLogicalAddressList other = parseLogicalAddressList input := by
  funext a
  rw [Bool.eq_iff_iff, parseLogicalAddressList_iff, parseLogicalAddressList_iff]
  simp only [h]

/-! ## Exactness -/

/-- A list is read exactly: its mask holds the addresses that entries are as a whole, whatever the
other entries are, and depends on nothing but which entries there are. -/
structure ReadExactly (input : Text) : Prop where
  mask : ∀ a : Fin 16, parseLogicalAddressList input a = true ↔
    ∃ entry ∈ addressEntries input, IsInteger entry a
  entries : ∀ other, (∀ entry, entry ∈ addressEntries other ↔ entry ∈ addressEntries input) →
    parseLogicalAddressList other = parseLogicalAddressList input

/-- **Address lists.** They are read exactly just if every address that an entry begins with and
goes on after is also an entry as a whole. -/
theorem readExactly_iff (input : Text) :
    ReadExactly input ↔
      ∀ (number rest : Text) (a : Fin 16), number ++ rest ∈ addressEntries input → rest ≠ [] →
        NoDigit rest → IsInteger number a → ∃ entry ∈ addressEntries input, IsInteger entry a := by
  constructor
  · intro hexact number rest a hmem _ hrest hnumber
    rw [← hexact.mask, parseLogicalAddressList_iff]
    exact ⟨_, hmem, number, rest, rfl, hnumber, hrest⟩
  · intro htrailing
    refine ⟨fun a => ?_, fun other => parseLogicalAddressList_congr⟩
    rw [parseLogicalAddressList_iff]
    constructor
    · rintro ⟨entry, hmem, number, rest, rfl, hnumber, hrest⟩
      by_cases hnil : rest = []
      · subst hnil
        rw [List.append_nil] at hmem
        exact ⟨number, hmem, hnumber⟩
      · exact htrailing number rest a hmem hnil hrest hnumber
    · rintro ⟨entry, hmem, hentry⟩
      exact ⟨entry, hmem, entry, [], (List.append_nil entry).symm, hentry, fun c hc => nomatch hc⟩

/-- A semicolon for a comma selects the television. -/
theorem wrong_separator_not_readExactly : ¬ ReadExactly "0;5".toList := by
  intro hexact
  obtain ⟨entry, hmem, hentry⟩ := (hexact.mask 0).mp (by decide)
  rw [show addressEntries "0;5".toList = ["0;5".toList] by decide, List.mem_singleton] at hmem
  subst hmem
  have hstoi := stoi_whole_iff.mpr ⟨hentry, by decide, by decide⟩
  revert hstoi
  decide

end CecControl
