import PocketShell.Proofs.DirectoryCommands
import PocketShell.Proofs.EscapedBytes

/-!
# What `ls` lists

The names in a directory are bytes, and `ls` lists those that are well-formed, in the order in which
the system gives them, each as the text that it encodes. It loses none of them, lists none twice and
adds none, and the other names leave no trace.

A listing can be made in two ways. One decodes every name and drops those that have no text. The
other goes through the names as the system hands them over, with wrong bytes escaped, and goes on to
the next name where one cannot be encoded. `codes_listing` says that both come to the same.

Main statement: `Shell.listing_of_names`.
-/

namespace PocketShell

open Text (Bytes Flaw WellFormed decode? decode?_eq_none decode?_eq_some_iff encode encodeCodes?
  encodeCodes?_escaped encodeCodes?_toNat encode_injective escaped escaped_encode
  not_wellFormed_iff wellFormed_iff)

namespace Shell

/-- The names that can be encoded, of those that are handed over as code points. -/
def keptNames : List (List Nat) → List (List Nat)
  | [] => []
  | name :: rest =>
    match encodeCodes? name with
    | none => keptNames rest
    | some _ => name :: keptNames rest

/-- The code points of a listing: the names that are kept, each with two spaces behind it, and a
line feed. -/
def listedCodes (names : List Bytes) : List Nat :=
  (keptNames (names.map escaped)).flatMap (· ++ [0x20, 0x20]) ++ [0x0A]

/-- The texts of names encode those of the names that are well-formed. -/
theorem map_encode_filterMap (names : List Bytes) :
    (names.filterMap decode?).map encode = names.filter (WellFormed ·) := by
  induction names with
  | nil => rfl
  | cons name names ih =>
      by_cases h : WellFormed name
      · obtain ⟨s, rfl⟩ := wellFormed_iff.mp h
        have hs : decode? (encode s) = some s := decode?_eq_some_iff.mpr rfl
        rw [List.filterMap_cons_some hs, List.filter_cons_of_pos (by simpa using h),
          List.map_cons, ih]
      · rw [List.filterMap_cons_none (decode?_eq_none h),
          List.filter_cons_of_neg (by simpa using h), ih]

/-- A text is among those of names exactly if its encoding is among the names. -/
theorem mem_filterMap_iff {names : List Bytes} {s : String} :
    s ∈ names.filterMap decode? ↔ encode s ∈ names := by
  simp only [List.mem_filterMap, decode?_eq_some_iff]
  constructor
  · rintro ⟨name, hname, rfl⟩
    exact hname
  · intro h
    exact ⟨_, h, rfl⟩

/-- The names that are kept are the code points of the texts of names. -/
theorem keptNames_escaped (names : List Bytes) :
    keptNames (names.map escaped) =
      (names.filterMap decode?).map fun s => s.toList.map Char.toNat := by
  induction names with
  | nil => rfl
  | cons name names ih =>
      rw [List.map_cons, keptNames, encodeCodes?_escaped]
      by_cases h : WellFormed name
      · obtain ⟨s, rfl⟩ := wellFormed_iff.mp h
        have hs : decode? (encode s) = some s := decode?_eq_some_iff.mpr rfl
        rw [if_pos h, List.filterMap_cons_some hs, List.map_cons, ← ih, escaped_encode]
      · rw [if_neg h, List.filterMap_cons_none (decode?_eq_none h), ← ih]

/-- Going through the names as they are handed over comes to the listing. -/
theorem codes_listing (names : List Bytes) :
    (listing names).toList.map Char.toNat = listedCodes names := by
  rw [listedCodes, keptNames_escaped, listing]
  simp [List.flatMap_map, List.map_flatMap]

variable {W : Type u}

/-- The listing of a directory that the system can read is that of its names. -/
theorem listDirectory_of_names {host : Host W} {sh : Shell W} {path : String} {names : List Bytes}
    (hz : hasZero path = false) (hnames : host.list sh.world path = .ok names) :
    sh.listDirectory host path = .ok (listing names) := by
  simp [listDirectory, hz, hnames]

/-- `ls` lists exactly the names that are well-formed, in their order and as often as they stand
there. The names that are missing are those that cannot be encoded again once their wrong bytes are
escaped, and leaving these out comes to the same listing. -/
theorem listing_of_names (host : Host W) (sh : Shell W) {line path : String} {names : List Bytes}
    (hlists : Lists sh line path) (hz : hasZero path = false)
    (hnames : host.list sh.world path = .ok names) :
    ∃ texts : List String, ∃ output : String,
      (sh.execute host .standard line).result = .ok output ∧
      (sh.execute host .standard line).shell = sh ∧
      output = String.join (texts.map (· ++ "  ")) ++ "\n" ∧
      texts.map encode = names.filter (WellFormed ·) ∧
      (∀ text, text ∈ texts ↔ encode text ∈ names) ∧
      (∀ name, ¬ WellFormed name ↔ ∃ s rest, name = encode s ++ rest ∧ Flaw rest) ∧
      (∀ name, encodeCodes? (escaped name) = if WellFormed name then some name else none) ∧
      output.toList.map Char.toNat = listedCodes names ∧
      encodeCodes? (listedCodes names) = some (encode output) := by
  obtain ⟨hresult, hshell⟩ := hlists.execute_of_text host (listDirectory_of_names hz hnames)
  refine ⟨names.filterMap decode?, listing names, hresult, hshell, rfl, map_encode_filterMap names,
    fun _ => mem_filterMap_iff, fun _ => not_wellFormed_iff, encodeCodes?_escaped,
    codes_listing names, ?_⟩
  rw [← codes_listing, encodeCodes?_toNat]

/-- A directory with an overlong form, a surrogate, a value that is too large, a sequence that
breaks off and a stray byte between names that are texts, one of which has the character that stands
for wrong bytes. -/
theorem listing_of_names_of_flaws :
    let names : List Bytes :=
      [encode "b", encode "a" ++ [0xC0, 0xAF], encode "\uFFFD", [0xED, 0xA0, 0x80],
        [0xF4, 0x90, 0x80, 0x80], [0xE2, 0x82] ++ encode "c", [0x80], encode "𝄞é"]
    let host : Host (List String) := { Host.removing with list := fun _ _ => .ok names }
    let sh := start "/" "root" ["/a"]
    Lists sh "ls" "/" ∧ hasZero "/" = false ∧ host.list sh.world "/" = .ok names ∧
    (sh.execute host .standard "ls").result = .ok "b  \uFFFD  𝄞é  \n" := by
  intro names host sh
  have hlists : Lists sh "ls" "/" := Or.inr ⟨by decide +kernel, rfl⟩
  have hz : hasZero "/" = false := by decide +kernel
  obtain ⟨texts, output, hresult, -, houtput, htexts, -⟩ :=
    listing_of_names host sh hlists hz rfl
  have hkept : texts.map encode = ["b", "\uFFFD", "𝄞é"].map encode := by
    rw [htexts]
    decide +kernel
  have hsame : texts = ["b", "\uFFFD", "𝄞é"] :=
    (List.map_inj_right fun _ _ h => encode_injective h).mp hkept
  refine ⟨hlists, hz, rfl, ?_⟩
  rw [hresult, houtput, hsame]
  rfl

end Shell

end PocketShell
