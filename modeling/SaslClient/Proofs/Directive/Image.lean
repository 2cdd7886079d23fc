import SaslClient.Proofs.Directive.Writing
/-!
# What reading can return

The reader returns directives that have names and values as the grammar has them, at least one, and
all such directives: written in quotes, in any order, they are read back. So a payload that was read
can be written anew, from its directives as they come, without a change to what it says.
-/
namespace SaslClient.Directives

open Grammar

structure Readable (m : Directives) : Prop where
  ne_empty : m ≠ ∅
  name : ∀ entry ∈ m.entries, IsName entry.1.toList
  value : ∀ entry ∈ m.entries, entry.2 ≠ ""

def writeQuoted (entries : List (String × String)) : String :=
  (entries.foldl (fun w (name, value) => w.quoted name value) ({} : Writer)).finish.1

private theorem writeQuoted_eq (entries : List (String × String)) :
    writeQuoted entries =
      (({} : Writer).addAll (entries.map fun (name, value) => .quoted name value)).written := by
  rw [Writer.addAll, List.foldl_map]
  rfl

theorem readable_of_payload {cs : List Char} {ds : List Pair} (h : Payload cs ds) :
    (ofPairs ds).Readable := by
  have hpair : ∀ entry ∈ (ofPairs ds).entries,
      ∃ d : Pair, (IsName d.1 ∧ d.2 ≠ []) ∧ (String.ofList d.1, String.ofList d.2) = entry := by
    intro entry hentry
    obtain ⟨d, hd, heq⟩ := List.mem_map.1 (Fields.mem_of_mem_ofList hentry)
    exact ⟨d, h.isName_and_ne_nil d hd, heq⟩
  refine ⟨?_, ?_, ?_⟩
  · apply Fields.ofList_ne_empty
    simpa using h.ne_nil
  · intro entry hentry
    obtain ⟨d, ⟨isName, -⟩, rfl⟩ := hpair entry hentry
    rw [String.toList_ofList]
    exact isName
  · intro entry hentry
    obtain ⟨d, ⟨-, ne_nil⟩, rfl⟩ := hpair entry hentry
    intro hempty
    exact ne_nil (String.ofList_eq_empty_iff.1 hempty)

theorem readable_of_parse {payload : List UInt8} {m : Directives} (h : parse payload = .ok m) :
    m.Readable := by
  obtain ⟨cs, rfl, -⟩ := parse_eq_ok_iff.1 h
  obtain ⟨ds, hds, rfl⟩ := parse_encode_eq_ok_iff.1 h
  exact readable_of_payload hds

/-- Directives that a payload can say are read back from quotes, in whatever order they stand. -/
theorem parse_writeQuoted {m : Directives} (h : m.Readable) {entries : List (String × String)}
    (hperm : entries.Perm m.entries) : parse (Utf8.bytes (writeQuoted entries)) = .ok m := by
  have hne : entries ≠ [] := by
    rintro rfl
    exact h.ne_empty (Fields.ext (List.nil_perm.1 hperm))
  have hvalid : ∀ i ∈ entries.map (fun (name, value) => Item.quoted name value), i.Valid := by
    rintro i hi
    obtain ⟨entry, hentry, rfl⟩ := List.mem_map.1 hi
    have hmem := hperm.mem_iff.1 hentry
    exact Item.valid_quoted (h.name entry hmem) (h.value entry hmem)
  have hentries :
      (entries.map fun (name, value) => Item.quoted name value).map (·.entry) = entries := by
    rw [List.map_map]
    exact List.map_id entries
  rw [writeQuoted_eq, parse_write (by simpa using hne) hvalid, hentries,
    Fields.ofList_of_perm hperm]

/-- What reading returns are the directives with names and values, at least one. Written in quotes
they are read back, in whatever order they stand, and so is what was read from any payload. -/
theorem parsed_iff_readable (m : Directives) :
    ((∃ payload, parse payload = .ok m) ↔ m.Readable) ∧
      (m.Readable → ∀ entries : List (String × String), entries.Perm m.entries →
        parse (Utf8.bytes (writeQuoted entries)) = .ok m) ∧
      ∀ payload, parse payload = .ok m → ∀ entries : List (String × String),
        entries.Perm m.entries → parse (Utf8.bytes (writeQuoted entries)) = parse payload := by
  refine ⟨⟨?_, ?_⟩, ?_, ?_⟩
  · rintro ⟨payload, h⟩
    exact readable_of_parse h
  · intro h
    exact ⟨_, parse_writeQuoted h (.refl m.entries)⟩
  · intro h entries hperm
    exact parse_writeQuoted h hperm
  · intro payload h entries hperm
    rw [h]
    exact parse_writeQuoted (readable_of_parse h) hperm

theorem parsed_iff_readable_reordered :
    let payload := Utf8.bytes "qop=a=\"b ,re,alm\t=\"ą\\\"\\,\" ,qop=\"é\""
    let m : Directives := Fields.ofList [("re,alm\t", "ą\","), ("qop", "é")]
    parse payload = .ok m ∧ m.Readable ∧
      parse (Utf8.bytes (writeQuoted [("re,alm\t", "ą\","), ("qop", "é")])) = .ok m ∧
      parse (Utf8.bytes (writeQuoted [("qop", "é"), ("re,alm\t", "ą\",")])) = parse payload := by
  intro payload m
  have hparse : parse payload = .ok m := by decide +kernel
  obtain ⟨hreadable, hwritten, hagain⟩ := parsed_iff_readable m
  have hm : m.Readable := hreadable.1 ⟨payload, hparse⟩
  have hswap : [("re,alm\t", "ą\","), ("qop", "é")].Perm m.entries := .swap _ _ _
  exact ⟨hparse, hm, hwritten hm _ hswap, hagain payload hparse _ (.refl _)⟩

end SaslClient.Directives
