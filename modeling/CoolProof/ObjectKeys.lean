import CoolProof.DocumentText
import CoolProof.Library.PosixPath

/-! Where object keys lead. The name at the end of a key keeps its dots, so a filename whose
path ends with two of them leads out of the prefix of its document, and no other does. -/

namespace CoolProof.Documents
open PosixPath PythonText Uuid

/-! ## Filenames -/

/-- The components of a filename, which either kind of slash parts. -/
def filenameParts (filename : String) : List Component :=
  filename.toList.splitOnP fun c => c == '/' || c == '\\'

/-- The last component that is neither empty nor a dot is two dots. -/
def NamesParent (filename : String) : Prop :=
  ∃ front back, filenameParts filename = front ++ parent :: back ∧ ∀ p ∈ back, p = [] ∨ p = dot

theorem splitOn_slash_map (cs : List Char) :
    (cs.map fun c => if c = '\\' then '/' else c).splitOn '/' =
      cs.splitOnP fun c => c == '/' || c == '\\' := by
  induction cs with
  | nil => rfl
  | cons c cs ih =>
    rw [List.map_cons, List.splitOn_cons_eq_if_modifyHead, List.splitOnP_cons_eq_if_modifyHead, ih]
    by_cases back : c = '\\'
    · simp [back]
    · by_cases slash : c = '/'
      · simp [slash]
      · simp [back, slash]

/-- A part that `PurePosixPath` keeps. -/
def keptPart (part : Component) : Bool := !part.isEmpty && part != ['.']

theorem keptPart_iff (part : Component) : keptPart part = false ↔ part = [] ∨ part = dot := by
  cases part with
  | nil => simp [keptPart]
  | cons c part => simp [keptPart, dot]

theorem pathName_eq (filename : String) :
    pathName filename = ((filenameParts filename).reverse.find? keptPart).getD [] := by
  rw [pathName, splitOn_slash_map]
  exact congrArg (fun name => Option.getD name []) List.getLast?_filter

theorem pathName_eq_parent_iff (filename : String) :
    pathName filename = parent ↔ NamesParent filename := by
  have some : pathName filename = parent ↔
      (filenameParts filename).reverse.find? keptPart = some parent := by
    rw [pathName_eq]
    cases (filenameParts filename).reverse.find? keptPart with
    | none => simp [parent]
    | some name => simp
  rw [some, List.find?_eq_some_iff_append]
  constructor
  · rintro ⟨-, after, before, parted, dropped⟩
    refine ⟨before.reverse, after.reverse, ?_, ?_⟩
    · rw [← List.reverse_reverse (filenameParts filename), parted]
      simp
    · intro p member
      have left := dropped p (List.mem_reverse.mp member)
      exact (keptPart_iff p).mp (by simpa using left)
  · rintro ⟨front, back, parted, dropped⟩
    refine ⟨rfl, back.reverse, front.reverse, by rw [parted]; simp, ?_⟩
    intro p member
    have left := (keptPart_iff p).mpr (dropped p (List.mem_reverse.mp member))
    rw [left]
    rfl

theorem pathName_ne_dot (filename : String) : pathName filename ≠ dot := by
  rw [pathName_eq]
  cases found : (filenameParts filename).reverse.find? keptPart with
  | none => simp [dot]
  | some name =>
    intro same
    have kept := List.find?_some found
    rw [Option.getD_some] at same
    rw [same] at kept
    exact absurd kept (by decide)

/-! ## Names in keys -/

/-- The character that stands in a key for one of the name. -/
def keyCharacter (c : Char) : Char := if isKeyCharacter c then c else '_'

theorem isKeyCharacter_keyCharacter (c : Char) : isKeyCharacter (keyCharacter c) = true := by
  unfold keyCharacter
  split
  · assumption
  · decide

theorem keyCharacter_eq_dot_iff (c : Char) : keyCharacter c = '.' ↔ c = '.' := by
  unfold keyCharacter
  split
  · exact Iff.rfl
  · rename_i other
    constructor
    · exact fun same => absurd same (by decide)
    · rintro rfl
      exact absurd (by decide) other

/-- The name as characters. -/
def safeCharacters (filename : String) : List Char :=
  let name := ((pathName filename).map keyCharacter).take 180
  if name.isEmpty then "upload".toList else name

theorem toList_safeName (filename : String) :
    (safeName filename).toList = safeCharacters filename := by
  unfold safeName safeCharacters
  change (if (((pathName filename).map keyCharacter).take 180).isEmpty then "upload"
    else String.ofList (((pathName filename).map keyCharacter).take 180)).toList = _
  split
  · rw [if_pos ‹_›]
  · rw [if_neg ‹_›, String.toList_ofList]

theorem isKeyCharacter_of_mem {filename : String} :
    ∀ c ∈ safeCharacters filename, isKeyCharacter c = true := by
  intro c member
  unfold safeCharacters at member
  dsimp only at member
  split at member
  · have all : "upload".toList.all isKeyCharacter = true := by decide
    exact List.all_eq_true.mp all c member
  · obtain ⟨d, -, rfl⟩ := List.mem_map.mp (List.mem_of_mem_take member)
    exact isKeyCharacter_keyCharacter d

theorem safeCharacters_ne_nil (filename : String) : safeCharacters filename ≠ [] := by
  unfold safeCharacters
  dsimp only
  split
  · decide
  · rename_i some
    simpa using some

theorem length_safeCharacters_le (filename : String) :
    (safeCharacters filename).length ≤ 180 := by
  unfold safeCharacters
  dsimp only
  split
  · decide
  · exact List.length_take_le _ _

/-- A name in a key that is all dots comes from a path that ends with them. -/
theorem safeCharacters_eq_dots_iff {dots : List Char} (filename : String) (some : dots ≠ [])
    (few : dots.length < 180) (all : ∀ c ∈ dots, c = '.') :
    safeCharacters filename = dots ↔ pathName filename = dots := by
  have kept : dots.map keyCharacter = dots := by
    have unchanged : ∀ c ∈ dots, keyCharacter c = c := by
      intro c member
      rw [all c member]
      decide
    rw [List.map_congr_left unchanged, List.map_id']
  constructor
  · intro same
    unfold safeCharacters at same
    dsimp only at same
    split at same
    · have first := all 'u' (same ▸ by decide)
      exact absurd first (by decide)
    · have length := congrArg List.length same
      rw [List.length_take] at length
      have whole : ((pathName filename).map keyCharacter).take 180 =
          (pathName filename).map keyCharacter := List.take_of_length_le (by omega)
      rw [whole] at same
      have unchanged : ∀ c ∈ pathName filename, keyCharacter c = c := by
        intro c member
        have dotted := all _ (same ▸ List.mem_map_of_mem member)
        rw [dotted, (keyCharacter_eq_dot_iff c).mp dotted]
      rw [← same, List.map_congr_left unchanged, List.map_id']
  · intro same
    have unchanged : (pathName filename).map keyCharacter = dots := by
      rw [same]
      exact kept
    have whole : ((pathName filename).map keyCharacter).take 180 = dots := by
      rw [unchanged, List.take_of_length_le (Nat.le_of_lt few)]
    unfold safeCharacters
    dsimp only
    rw [whole, if_neg (by simpa using some)]

/-! ## Keys as paths -/

section Prefix

variable {organization document name : Component}

/-- The components of the prefix of a document, from the texts of the two ids. -/
def prefixOf (organization document : Component) : List Component :=
  ["organizations".toList, organization, "documents".toList, document]

theorem toList_key (organization document name : String) :
    ("organizations/" ++ organization ++ "/documents/" ++ document ++ "/" ++ name).toList =
      ['/'].intercalate (prefixOf organization.toList document.toList ++ [name.toList]) := by
  have organizations : "organizations/".toList = "organizations".toList ++ ['/'] := by decide
  have documents : "/documents/".toList = '/' :: ("documents".toList ++ ['/']) := by decide
  have slash : "/".toList = ['/'] := by decide
  rw [String.toList_append, String.toList_append, String.toList_append, String.toList_append,
    String.toList_append, organizations, documents, slash, prefixOf]
  simp [List.intercalate]

theorem isName_prefixOf (organizationName : IsName organization) (documentName : IsName document) :
    ∀ p ∈ prefixOf organization document, IsName p := by
  intro p member
  simp only [prefixOf, List.mem_cons, List.not_mem_nil, or_false] at member
  rcases member with rfl | rfl | rfl | rfl
  · exact ⟨by decide, by decide, by decide⟩
  · exact organizationName
  · exact ⟨by decide, by decide, by decide⟩
  · exact documentName

theorem slash_not_mem_prefixOf (organizationPlain : '/' ∉ organization)
    (documentPlain : '/' ∉ document) (namePlain : '/' ∉ name) :
    ∀ p ∈ prefixOf organization document ++ [name], '/' ∉ p := by
  intro p member
  simp only [prefixOf, List.cons_append, List.nil_append, List.mem_cons, List.not_mem_nil,
    or_false] at member
  rcases member with rfl | rfl | rfl | rfl | rfl
  · decide
  · exact organizationPlain
  · decide
  · exact documentPlain
  · exact namePlain

theorem normalise_prefixOf_parent (organizationName : IsName organization)
    (documentName : IsName document) : normalise (prefixOf organization document ++ [parent]) =
      ["organizations".toList, organization, "documents".toList] :=
  @normalise_parent ["organizations".toList, organization, "documents".toList] document
    (isName_prefixOf organizationName documentName)

theorem prefixOf_append_inj {organization' document' name' : Component}
    (same : prefixOf organization document ++ [name] =
      prefixOf organization' document' ++ [name']) :
    organization = organization' ∧ document = document' := by
  simp only [prefixOf, List.cons_append, List.nil_append, List.cons.injEq] at same
  exact ⟨same.2.1, same.2.2.2.1⟩

theorem prefixOf_append_ne {organization' : Component} :
    prefixOf organization document ++ [name] ≠
      ["organizations".toList, organization', "documents".toList] := by
  intro same
  exact absurd (congrArg List.length same) (by simp [prefixOf])

end Prefix

/-- The components of the prefix of a document. -/
def documentPrefix (organizationId documentId : UUID) : List Component :=
  prefixOf (canonical organizationId) (canonical documentId)

theorem toList_s3ObjectKey (organizationId documentId : UUID) (filename : String) :
    (s3ObjectKey organizationId documentId filename).toList =
      ['/'].intercalate
        (documentPrefix organizationId documentId ++ [safeCharacters filename]) := by
  have text : ∀ u : UUID, (Uuid.toString u).toList = canonical u := fun u => String.toList_ofList
  have key := toList_key (Uuid.toString organizationId) (Uuid.toString documentId)
    (safeName filename)
  rw [text, text, toList_safeName] at key
  exact key

theorem isName_canonical (u : UUID) : IsName (canonical u) := by
  have dash : '-' ∈ canonical u := by
    rw [canonical]
    simp only [List.mem_append, List.mem_cons, true_or, or_true]
  refine ⟨List.ne_nil_of_mem dash, ?_, ?_⟩
  · intro same
    rw [same] at dash
    exact absurd dash (by decide)
  · intro same
    rw [same] at dash
    exact absurd dash (by decide)

theorem slash_not_mem_canonical (u : UUID) : '/' ∉ canonical u :=
  not_mem_canonical u (by decide) (by decide)

theorem slash_not_mem_safeCharacters (filename : String) : '/' ∉ safeCharacters filename := by
  intro member
  exact absurd (isKeyCharacter_of_mem '/' member) (by decide)

/-- A key in normal form. -/
def normalKey (organizationId documentId : UUID) (filename : String) : List Component :=
  normpath (s3ObjectKey organizationId documentId filename).toList

theorem normalKey_eq (organizationId documentId : UUID) (filename : String) :
    normalKey organizationId documentId filename =
      normalise (documentPrefix organizationId documentId ++ [safeCharacters filename]) := by
  rw [normalKey, toList_s3ObjectKey, documentPrefix,
    normpath_intercalate (by simp) (slash_not_mem_prefixOf (slash_not_mem_canonical _)
      (slash_not_mem_canonical _) (slash_not_mem_safeCharacters filename))]

theorem safeCharacters_eq_parent_iff (filename : String) :
    safeCharacters filename = parent ↔ NamesParent filename := by
  rw [← pathName_eq_parent_iff]
  exact safeCharacters_eq_dots_iff filename (by decide) (by decide) (by simp [parent])

theorem safeCharacters_ne_dot (filename : String) : safeCharacters filename ≠ dot := by
  intro same
  have name :=
    (safeCharacters_eq_dots_iff filename (by decide) (by decide) (by simp [dot])).mp same
  exact pathName_ne_dot filename name

theorem normalKey_of_not {filename : String} (below : ¬ NamesParent filename)
    (organizationId documentId : UUID) : normalKey organizationId documentId filename =
      documentPrefix organizationId documentId ++ [safeCharacters filename] := by
  rw [normalKey_eq]
  apply normalise_names
  intro p member
  rcases List.mem_append.mp member with inPrefix | last
  · exact isName_prefixOf (isName_canonical _) (isName_canonical _) p inPrefix
  · rw [List.mem_singleton.mp last]
    exact ⟨safeCharacters_ne_nil filename, safeCharacters_ne_dot filename,
      fun same => below ((safeCharacters_eq_parent_iff filename).mp same)⟩

/-- A key with two dots for a name leads to the documents of the organization. -/
theorem normalKey_of_namesParent {filename : String} (above : NamesParent filename)
    (organizationId documentId : UUID) : normalKey organizationId documentId filename =
      ["organizations".toList, canonical organizationId, "documents".toList] := by
  rw [normalKey_eq, (safeCharacters_eq_parent_iff filename).mpr above]
  exact normalise_prefixOf_parent (isName_canonical _) (isName_canonical _)

/-- The name in a key is neither one dot nor two, and its normal form is below the prefix of
the document. -/
structure StaysBelow (organizationId documentId : UUID) (filename : String) : Prop where
  notDot : safeName filename ≠ "."
  notParent : safeName filename ≠ ".."
  below : documentPrefix organizationId documentId <+: normalKey organizationId documentId filename

theorem staysBelow_iff (organizationId documentId : UUID) (filename : String) :
    StaysBelow organizationId documentId filename ↔ ¬ NamesParent filename := by
  constructor
  · rintro ⟨-, notParent, -⟩ above
    apply notParent
    have name := (safeCharacters_eq_parent_iff filename).mpr above
    rw [← toList_safeName] at name
    rw [← String.ofList_toList (s := safeName filename), name]
    rfl
  · intro below
    refine ⟨?_, ?_, ?_⟩
    · intro same
      have name := toList_safeName filename
      rw [same] at name
      exact safeCharacters_ne_dot filename name.symm
    · intro same
      have name := toList_safeName filename
      rw [same] at name
      exact below ((safeCharacters_eq_parent_iff filename).mp name.symm)
    · rw [normalKey_of_not below]
      exact List.prefix_append _ _

theorem canonical_injective : Function.Injective canonical := by
  intro u v same
  exact toString_injective (congrArg String.ofList same)

/-- Keys of different documents coincide in normal form only as the documents of one
organization. -/
theorem normalKey_eq_iff {o d o' d' : UUID} (different : (o, d) ≠ (o', d'))
    (filename filename' : String) : normalKey o d filename = normalKey o' d' filename' ↔
      o = o' ∧ NamesParent filename ∧ NamesParent filename' := by
  by_cases above : NamesParent filename
  · by_cases above' : NamesParent filename'
    · rw [normalKey_of_namesParent above, normalKey_of_namesParent above']
      constructor
      · intro same
        exact ⟨canonical_injective (List.cons.inj (List.cons.inj same).2).1, above, above'⟩
      · rintro ⟨rfl, -, -⟩
        rfl
    · rw [normalKey_of_namesParent above, normalKey_of_not above']
      exact ⟨fun same => absurd same.symm prefixOf_append_ne, fun both => absurd both.2.2 above'⟩
  · by_cases above' : NamesParent filename'
    · rw [normalKey_of_not above, normalKey_of_namesParent above']
      exact ⟨fun same => absurd same prefixOf_append_ne, fun both => absurd both.2.1 above⟩
    · rw [normalKey_of_not above, normalKey_of_not above']
      refine ⟨fun same => ?_, fun both => absurd both.2.1 above⟩
      obtain ⟨organization, document⟩ := prefixOf_append_inj same
      have sameOrganization : o = o' := canonical_injective organization
      have sameDocument : d = d' := canonical_injective document
      rw [sameOrganization, sameDocument] at different
      exact absurd rfl different

/-- Every key is the prefix of its document with a short name of safe characters. It stays below
that prefix, and apart from the keys of all other documents, unless the path of the filename
ends with two dots. -/
theorem object_keys_stay_below_iff (o d : UUID) (filename : String) :
    (s3ObjectKey o d filename = "organizations/" ++ Uuid.toString o ++ "/documents/" ++
        Uuid.toString d ++ "/" ++ safeName filename ∧
      safeName filename ≠ "" ∧ (safeName filename).length ≤ 180 ∧
      (∀ c ∈ (safeName filename).toList, isKeyCharacter c = true) ∧ safeName filename ≠ ".") ∧
    (safeName filename ≠ ".." ↔ ¬ NamesParent filename) ∧
    (StaysBelow o d filename ↔ ¬ NamesParent filename) ∧
    ∀ (o' d' : UUID) (filename' : String), (o, d) ≠ (o', d') →
      (normalKey o d filename = normalKey o' d' filename' ↔
        o = o' ∧ NamesParent filename ∧ NamesParent filename') := by
  refine ⟨⟨rfl, ?_, ?_, ?_, ?_⟩, ?_, staysBelow_iff o d filename,
    fun o' d' filename' different => normalKey_eq_iff different filename filename'⟩
  · intro empty
    have name := toList_safeName filename
    rw [empty] at name
    exact safeCharacters_ne_nil filename name.symm
  · rw [← String.length_toList, toList_safeName]
    exact length_safeCharacters_le filename
  · rw [toList_safeName]
    exact isKeyCharacter_of_mem
  · intro one
    have name := toList_safeName filename
    rw [one] at name
    exact safeCharacters_ne_dot filename name.symm
  · rw [← safeCharacters_eq_parent_iff, ← toList_safeName]
    exact not_congr ⟨congrArg String.toList, fun same => String.toList_injective same⟩

/-- The filename of two dots gives one key in normal form to all documents of an organization,
and that key is not below the prefix of any. -/
theorem parent_filename_leaves_prefix :
    s3ObjectKey 1 2 ".." = "organizations/00000000-0000-0000-0000-000000000001/documents/" ++
      "00000000-0000-0000-0000-000000000002/.." ∧
    ¬ StaysBelow 1 2 ".." ∧ normalKey 1 2 ".." = normalKey 1 3 ".." := by
  have above : NamesParent ".." := ⟨[], [], by decide, by simp⟩
  refine ⟨by decide, fun stays => (staysBelow_iff 1 2 "..").mp stays above, ?_⟩
  rw [normalKey_of_namesParent above, normalKey_of_namesParent above]

theorem object_keys_stay_below_iff_two_documents : normalKey 1 2 "a/.." = normalKey 1 3 ".." := by
  have first : NamesParent "a/.." := ⟨[['a']], [], by decide, by simp⟩
  have second : NamesParent ".." := ⟨[], [], by decide, by simp⟩
  exact ((object_keys_stay_below_iff 1 2 "a/..").2.2.2 1 3 ".." (by decide)).mpr
    ⟨rfl, first, second⟩

end CoolProof.Documents
