import KarelBuild.Host
import KarelBuild.Proofs.Include
import KarelBuild.Proofs.Text.Utf8

/-!
# Scanning a file line by line

A file holds bytes, which need not be UTF-8. Its names are found line by line all the same: decoding
starts afresh at each line feed, and neither a carriage return at the end of a line nor an empty line
matters to what is included. So each line of a file contributes what it would contribute as a file of
its own, whatever the line ends and the other lines are (`scan_lineLocal`).
-/

namespace KarelBuild

open Text

/-! ## Names on the pieces of a text -/

/-- White space at the end of a line is part of what is behind the name. -/
theorem Directive.append_blank {line name : Text} {c : Char} (hc : isBlank c = true) :
    Directive (line ++ [c]) name ↔ Directive line name := by
  constructor
  · intro h
    generalize hall : line ++ [c] = all at h
    cases h with
    | @mk indent gap name rest hindent hgap hne hname hrest =>
      rcases List.eq_nil_or_concat rest with rfl | ⟨rest, d, rfl⟩
      · -- Nothing is behind the name, so the white space would be part of it.
        obtain ⟨init, d, rfl⟩ := List.eq_nil_or_concat name |>.resolve_left hname.nonempty
        obtain rfl : c = d := by simpa using congrArg List.getLast? hall
        have hfalse := hname.noBlank c (by simp)
        rw [hc] at hfalse
        simp at hfalse
      · rw [List.concat_eq_append, ← List.append_assoc] at hall
        obtain ⟨rfl, -⟩ := List.append_inj' hall rfl
        refine .mk hindent hgap hne hname fun e he => hrest e ?_
        cases rest with
        | nil => simp at he
        | cons a rest => simpa using he
  · rintro ⟨hindent, hgap, hne, hname, hrest⟩
    rw [List.append_assoc]
    refine .mk hindent hgap hne hname fun e he => ?_
    rename_i rest
    cases rest with
    | nil =>
      obtain rfl : c = e := by simpa using he
      exact hc
    | cons a rest => exact hrest e (by simpa using he)

theorem includeOnLine?_append_blank {c : Char} (hc : isBlank c = true) (line : Text) :
    includeOnLine? (line ++ [c]) = includeOnLine? line := by
  refine Option.ext fun name => ?_
  rw [includeOnLine?_eq_some_iff, includeOnLine?_eq_some_iff, Directive.append_blank hc]

theorem includeOnLine?_dropReturn (line : Text) :
    includeOnLine? (dropReturn line) = includeOnLine? line := by
  by_cases hlast : line.getLast? = some '\r'
  · obtain ⟨t, rfl⟩ := exists_return_of_last hlast
    rw [dropReturn_concat, includeOnLine?_append_blank (by decide)]
  · rw [dropReturn_of_last hlast]

/-- A text includes what stands between its line feeds. -/
theorem includes_eq_split (t : Text) : includes t = (split '\n' t).filterMap includeOnLine? := by
  obtain ⟨ps, last, hsplit⟩ : ∃ ps last, split '\n' t = ps ++ [last] := by
    obtain ⟨ps, last, h⟩ := List.eq_nil_or_concat (split '\n' t) |>.resolve_left (split_ne_nil _ t)
    exact ⟨ps, last, by rw [h, List.concat_eq_append]⟩
  have hreturn : (includeOnLine? ∘ dropReturn) = includeOnLine? :=
    funext includeOnLine?_dropReturn
  have hlast : (if last = [] then [] else [last]).filterMap includeOnLine? =
      [last].filterMap includeOnLine? := by
    split
    next h => subst h; rfl
    next => rfl
  simp only [includes, lines, hsplit, List.dropLast_concat, List.getLastD_concat,
    List.filterMap_append, List.filterMap_map, hreturn, hlast]

theorem includes_append (t u : Text) : includes (t ++ '\n' :: u) = includes t ++ includes u := by
  simp only [includes_eq_split, split_append, List.filterMap_append]

theorem includes_of_noFeed {t : Text} (h : '\n' ∉ t) :
    includes t = [t].filterMap includeOnLine? := by
  rw [includes_eq_split, split_of_not_mem h]

/-- A carriage return at the end of a text includes nothing and hides nothing. -/
theorem includes_return (t : Text) : includes (t ++ ['\r']) = includes t := by
  have noFeed {line : Text} (h : '\n' ∉ line) : includes (line ++ ['\r']) = includes line := by
    rw [includes_of_noFeed h, includes_of_noFeed (by simpa using h), List.filterMap_cons,
      List.filterMap_cons, includeOnLine?_append_blank (by decide)]
  have h := hasLines_lines t
  generalize lines t = ls at h
  induction h with
  | none => exact noFeed (by simp)
  | last _ hfeed => exact noFeed hfeed
  | feed _ _ _ ih =>
    rw [List.append_assoc, List.cons_append, includes_append, includes_append, ih]
  | @returnFeed line rest _ _ _ ih =>
    have hsplit (t : Text) : line ++ '\r' :: '\n' :: t = line ++ ['\r'] ++ '\n' :: t := by simp
    rw [List.append_assoc, List.cons_append, List.cons_append, hsplit, hsplit, includes_append,
      includes_append, ih]

/-! ## Names in the bytes of a file -/

def lineFeed : UInt8 := 0x0A

def carriageReturn : UInt8 := 0x0D

/-- What is included where a file has these bytes. -/
def namesIn (bytes : Bytes) : List Text := includes (Utf8.decode bytes)

theorem namesIn_feed (a b : Bytes) : namesIn (a ++ lineFeed :: b) = namesIn a ++ namesIn b := by
  unfold namesIn
  rw [Utf8.decode_plain a (by decide) b]
  exact includes_append _ _

theorem namesIn_return (a : Bytes) : namesIn (a ++ [carriageReturn]) = namesIn a := by
  unfold namesIn
  rw [Utf8.decode_plain a (by decide) []]
  exact includes_return _

theorem namesIn_returnFeed (a b : Bytes) :
    namesIn (a ++ carriageReturn :: lineFeed :: b) = namesIn a ++ namesIn b := by
  have hsplit : a ++ carriageReturn :: lineFeed :: b =
      a ++ [carriageReturn] ++ lineFeed :: b := by simp
  rw [hsplit, namesIn_feed, namesIn_return]

/-! ## Files as lists of lines -/

inductive LineEnd where
  | feed
  | returnFeed
  deriving DecidableEq, Repr

def LineEnd.bytes : LineEnd → Bytes
  | feed => [lineFeed]
  | returnFeed => [carriageReturn, lineFeed]

/-- The bytes of lines that have an end each and of the last line, which has none. -/
def fileOf (ended : List (Bytes × LineEnd)) (last : Bytes) : Bytes :=
  ended.foldr (fun line rest => line.1 ++ line.2.bytes ++ rest) last

theorem exists_fileOf (bytes : Bytes) : ∃ ended last, fileOf ended last = bytes ∧
    (∀ line ∈ ended, lineFeed ∉ line.1) ∧ lineFeed ∉ last := by
  induction bytes with
  | nil => exact ⟨[], [], rfl, by simp, by simp⟩
  | cons b bytes ih =>
    obtain ⟨ended, last, rfl, hended, hlast⟩ := ih
    by_cases hb : b = lineFeed
    · subst hb
      exact ⟨([], .feed) :: ended, last, rfl, by simpa using hended, hlast⟩
    · cases ended with
      | nil => exact ⟨[], b :: last, rfl, by simp, by simp [Ne.symm hb, hlast]⟩
      | cons line ended =>
        refine ⟨(b :: line.1, line.2) :: ended, last, rfl, ?_, hlast⟩
        have hline : lineFeed ∉ line.1 := hended line (List.mem_cons_self ..)
        simp only [List.mem_cons, forall_eq_or_imp, not_or]
        exact ⟨⟨Ne.symm hb, hline⟩, fun l hl => hended l (List.mem_cons_of_mem _ hl)⟩

/-- Each line contributes its own names, whatever its end is. -/
theorem namesIn_fileOf (ended : List (Bytes × LineEnd)) (last : Bytes) :
    namesIn (fileOf ended last) = (ended.flatMap fun line => namesIn line.1) ++ namesIn last := by
  induction ended with
  | nil => rfl
  | cons line ended ih =>
    obtain ⟨bytes, e⟩ := line
    have hcons : fileOf ((bytes, e) :: ended) last = bytes ++ e.bytes ++ fileOf ended last := rfl
    rw [hcons, List.flatMap_cons, List.append_assoc, List.append_assoc, ← ih]
    cases e with
    | feed => exact namesIn_feed bytes (fileOf ended last)
    | returnFeed => exact namesIn_returnFeed bytes (fileOf ended last)

/-! ## Scanning files -/

/-- Wherever a file with these bytes is scanned, these names are found. -/
def Scans (bytes : Bytes) (found : List Text) : Prop :=
  ∀ (h : Host) (p : Path), h.tree.read h.workDir p = .ok bytes → h.includesOf p = .ok found

theorem scans_namesIn (bytes : Bytes) : Scans bytes (namesIn bytes) := by
  intro h p hread
  simp [Host.includesOf, Host.readText, hread, refusedDuring, Except.map, Except.mapError, namesIn]

/-- A host with one file. -/
def plainHost (bytes : Bytes) : Host := ⟨⟨[(["f".toList], .file bytes false)]⟩, .root, [], 0⟩

theorem plainHost_read (bytes : Bytes) :
    (plainHost bytes).tree.read .root "/f".toList = .ok bytes := by
  rfl

theorem scans_iff {bytes : Bytes} {found : List Text} :
    Scans bytes found ↔ found = namesIn bytes := by
  constructor
  · intro h
    have hread := plainHost_read bytes
    have hfound := (h _ _ hread).symm.trans (scans_namesIn bytes _ _ hread)
    exact Except.ok.inj hfound
  · rintro rfl
    exact scans_namesIn bytes

/-- What files contribute is put together from what their lines contribute. -/
structure LineLocal (names : Bytes → List Text) : Prop where
  scans : ∀ {bytes : Bytes} {found : List Text}, Scans bytes found ↔ found = names bytes
  feed : ∀ a b, names (a ++ lineFeed :: b) = names a ++ names b
  returnFeed : ∀ a b, names (a ++ carriageReturn :: lineFeed :: b) = names a ++ names b
  files : ∀ bytes, ∃ ended last, fileOf ended last = bytes ∧
    (∀ line ∈ ended, lineFeed ∉ line.1) ∧ lineFeed ∉ last
  lines : ∀ ended last,
    names (fileOf ended last) = (ended.flatMap fun line => names line.1) ++ names last
  lineEnds : ∀ {ended ended' : List (Bytes × LineEnd)} (last : Bytes),
    ended.map (·.1) = ended'.map (·.1) → names (fileOf ended last) = names (fileOf ended' last)
  damaged : ∀ before (line : Bytes) e after last, names (fileOf (before ++ (line, e) :: after) last) =
    (before.flatMap fun line => names line.1) ++ names line ++ names (fileOf after last)

/-- **Scanning is local to lines.** Scanning a file finds what scanning the bytes before a line end and
those behind it finds, for any bytes. So the names of a file are those of its lines, and neither other
line ends nor other bytes on one line change what is found on the rest. -/
theorem scan_lineLocal : LineLocal namesIn where
  scans := scans_iff
  feed := namesIn_feed
  returnFeed := namesIn_returnFeed
  files := exists_fileOf
  lines := namesIn_fileOf
  lineEnds {ended ended'} last hsame := by
    have hnames (lines : List (Bytes × LineEnd)) :
        (lines.flatMap fun line => namesIn line.1) = (lines.map (·.1)).flatMap namesIn := by
      rw [List.flatMap_map]
    rw [namesIn_fileOf, namesIn_fileOf, hnames, hnames, hsame]
  damaged before line e after last := by
    rw [namesIn_fileOf, namesIn_fileOf, List.flatMap_append, List.flatMap_cons, List.append_assoc,
      List.append_assoc, List.append_assoc]

end KarelBuild
