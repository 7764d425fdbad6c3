import KubeOne.Semver.Version
import KubeOne.Text.Pairs

/-! Ranges of versions. A loop prints a version and goes on with the next release of its line while
that is not above the maximum. It ends where the line leaves the range: behind the last number of a
line comes zero, and a line below the maximum's never leaves. -/

namespace KubeOne.Semverutil

open Semver Semver.Version List

/-- The semver library. -/
structure Library where
  newVersion : String → Except String Version
  string : Version → String
  string_release : ∀ a b c, string (release a b c) = s!"{a}.{b}.{c}"
  newVersion_release : ∀ a b c, newVersion s!"{a}.{b}.{c}" = .ok (release a b c)
  newVersion_string : ∀ {text v}, newVersion text = .ok v → newVersion (string v) = .ok v

structure Parsable (lib : Library) where
  text : String
  version : Version
  parses : lib.newVersion text = .ok version

instance : LE Version := ⟨fun v o => v.compare o ≤ 0⟩

/-- The release a version belongs to. -/
@[grind] def base (v : Version) : Version := release v.major v.minor v.patch

variable (lib : Library)

def incrementMinor (v : Version) : Except String Version :=
  (lib.newVersion s!"{v.major}.{v.minor + 1}.{(0 : UInt64)}").mapError
    ("failed to increment minor version: " ++ ·)

def incrementPatch (v : Version) : Except String Version :=
  (lib.newVersion s!"{v.major}.{v.minor}.{v.patch + 1}").mapError
    ("failed to increment patch version: " ++ ·)

def getVersionWithoutPatch (v : Version) : String := s!"{v.major}.{v.minor}"

/-- What a range counts. -/
inductive Component
  | minor
  | patch

namespace Component

def format : Component → Version → String
  | .minor => getVersionWithoutPatch
  | .patch => lib.string

def increment : Component → Version → Except String Version
  | .minor, v => (incrementMinor lib v).mapError ("failed to increment minor version: " ++ ·)
  | .patch, v => (incrementPatch lib v).mapError ("failed to increment patch version: " ++ ·)

/-- The releases of the line of a version. -/
@[grind] def release (v : Version) (i p : UInt64) : Component → Version
  | .minor => .release v.major i p
  | .patch => .release v.major v.minor i

@[grind] def number (v : Version) : Component → UInt64
  | .minor => v.minor
  | .patch => v.patch

end Component

/-- What a loop returns that ends within so many rounds. -/
def loop (c : Component) (maxVersion currentVersion : Version) :
    ℕ → Option (Except String (List String))
  | 0 => none
  | n + 1 =>
    if currentVersion.compare maxVersion ≤ 0 then
      match c.increment lib currentVersion with
      | .error e => some (.error e)
      | .ok nextVersion =>
        (loop c maxVersion nextVersion n).map (·.map (c.format lib currentVersion :: ·))
    else some (.ok [])

def getRange (c : Component) (minVersionStr maxVersionStr : String) (rounds : ℕ) :
    Option (Except String (List String)) :=
  match lib.newVersion minVersionStr, lib.newVersion maxVersionStr with
  | .error e, _ => some (.error s!"failed to parse minimum version: {e}")
  | _, .error e => some (.error s!"failed to parse maximum version: {e}")
  | .ok minVersion, .ok maxVersion => loop lib c maxVersion minVersion rounds

def getMinorRange := getRange lib .minor

def getPatchRange := getRange lib .patch

/-- A run ends and returns, in ascending order, the texts of the releases of the line of `v` that
are not below `v` and not above `o`. -/
def Exact (c : Component) (v o : Version) (run : ℕ → Option (Except String (List String))) : Prop :=
  ∃ n is, run n = some (.ok (map (fun i => c.format lib (c.release v i 0)) is)) ∧
    Pairwise (· < ·) is ∧ ∀ i, i ∈ is ↔ ∃ p, v ≤ c.release v i p ∧ c.release v i p ≤ o

variable {lib} {c : Component} {v o : Version} {i : UInt64} {n : ℕ}

attribute [grind] release

@[grind =] theorem le_iff : v ≤ o ↔ v.major < o.major ∨ v.major = o.major ∧ (v.minor < o.minor ∨
    v.minor = o.minor ∧ (v.patch < o.patch ∨ v.patch = o.patch ∧
      (o.pre = [] ∨ v.pre ≠ [] ∧ comparePrerelease v.pre o.pre ≤ 0))) := by
  change v.compare o ≤ 0 ↔ _
  unfold Version.compare compareSegment
  rcases hv : v.pre with _ | ⟨p, ps⟩ <;> rcases ho : o.pre with _ | ⟨q, qs⟩ <;> grind

theorem inRange_iff : (∃ p, v ≤ c.release v i p ∧ c.release v i p ≤ o) ↔
    c.number v = i ∧ base v ≤ o ∨ c.number v < i ∧ c.release v i 0 ≤ o := by
  cases c <;> simp only [le_iff, Component.release, Component.number, base, release] <;> grind

theorem line_mono {j : UInt64} (h : j ≤ i) (hi : c.release v i 0 ≤ o) : c.release v j 0 ≤ o := by
  cases c <;> grind

theorem loop_succ (h : v ≤ o) : loop lib c o v (n + 1) =
    (loop lib c o (c.release v (c.number v + 1) 0) n).map (·.map (c.format lib v :: ·)) := by
  have hnext : c.increment lib v = .ok (c.release v (c.number v + 1) 0) := by
    cases c <;> simp only [Component.increment, incrementMinor, incrementPatch,
      lib.newVersion_release] <;> rfl
  exact (if_pos h).trans (by rw [hnext])

theorem loop_line (h : c.release v i 0 ≤ o) : loop lib c o (c.release v i 0) (n + 1) =
    (loop lib c o (c.release v (i + 1) 0) n).map
      (·.map (c.format lib (c.release v i 0) :: ·)) :=
  (loop_succ h).trans (by cases c <;> rfl)

theorem loop_endless (hlast : c.release v (-1) 0 ≤ o) (i : UInt64) :
    loop lib c o (c.release v i 0) n = none := by
  induction n generalizing i with
  | zero => rfl
  | succ n ih => rw [loop_line (line_mono (by grind) hlast), ih, Option.map_none]

variable (lib) in
theorem loop_ends (hlast : ¬ c.release v (-1) 0 ≤ o) (i : UInt64) :
    ∃ n is, loop lib c o (c.release v i 0) n =
        some (.ok (map (fun i => c.format lib (c.release v i 0)) is)) ∧
      Pairwise (· < ·) is ∧ ∀ j, j ∈ is ↔ i ≤ j ∧ c.release v j 0 ≤ o := by
  -- by induction on how many numbers the line has left
  induction hk : 2 ^ 64 - i.toNat using Nat.strongRecOn generalizing i with
  | _ k ih =>
    by_cases hi : c.release v i 0 ≤ o
    · have hlt : i < i + 1 := by grind
      obtain ⟨n, is, hrun, hsorted, his⟩ := ih _ (by
        have := UInt64.lt_iff_toNat_lt.1 hlt
        have := (i + 1).toNat_lt
        omega) (i + 1) rfl
      refine ⟨n + 1, i :: is, ?_, pairwise_cons.2 ⟨by grind, hsorted⟩, by grind⟩
      rw [loop_line hi, hrun]
      rfl
    · exact ⟨1, [], if_neg hi, .nil, fun j => by
        simpa using fun hj hle => hi (line_mono hj hle)⟩

theorem exact_loop_iff {text : String} (h : lib.newVersion text = .ok v) :
    Exact lib c v o (loop lib c o v) ↔ ¬ v ≤ o ∨ ¬ c.release v (-1) 0 ≤ o ∧
      base v ≤ o ∧ (c = .patch → v.pre = [] ∧ v.metadata = "") := by
  by_cases hle : v ≤ o
  · rw [or_iff_right (not_not.2 hle)]
    constructor
    · rintro ⟨_ | n, is, hrun, -, his⟩
      · cases hrun
      · rw [loop_succ hle, Option.map_eq_some_iff] at hrun
        obtain ⟨rest, hrest, hcons⟩ := hrun
        cases rest with
        | error e => cases hcons
        | ok rest =>
          obtain ⟨i, is, rfl, hi, -⟩ := map_eq_cons_iff.1 (Except.ok.inj hcons).symm
          refine ⟨fun hlast => ?_, ?_, ?_⟩
          · rw [loop_endless hlast] at hrest
            cases hrest
          · rcases inRange_iff.1 ((his i).1 mem_cons_self) with ⟨-, h⟩ | ⟨hlt, h⟩
            · exact h
            · cases c <;> grind
          · rintro rfl
            have hv := lib.newVersion_string h
            rw [← show lib.string (release _ _ i) = lib.string v from hi, lib.string_release,
              lib.newVersion_release] at hv
            rw [← Except.ok.inj hv]
            exact ⟨rfl, rfl⟩
    · rintro ⟨hlast, hfirst, hplain⟩
      obtain ⟨n, is, hrun, hsorted, his⟩ := loop_ends lib hlast (c.number v + 1)
      have hlt : c.number v < c.number v + 1 := by cases c <;> grind
      refine ⟨n + 1, c.number v :: is, ?_, pairwise_cons.2 ⟨by grind, hsorted⟩, fun i => ?_⟩
      · rw [loop_succ hle, hrun]
        cases c with
        | minor => rfl
        | patch =>
          have hv : v = base v := by
            cases v
            simpa [base, release] using hplain
          rw [hv]
          rfl
      · rw [inRange_iff, mem_cons, his]
        grind
  · refine iff_of_true ⟨1, [], if_neg hle, .nil, fun i => ?_⟩ (.inl hle)
    cases c <;> grind

/-- A range that is not empty from the start ends and is exact if and only if the last number of the
line is above the maximum and the first text is that of a release in the range. -/
theorem ranges_exact_iff (min max : Parsable lib) :
    (Exact lib .minor min.version max.version (getMinorRange lib min.text max.text) ↔
      ¬ min.version ≤ max.version ∨
        ¬ release min.version.major (-1) 0 ≤ max.version ∧ base min.version ≤ max.version) ∧
    (Exact lib .patch min.version max.version (getPatchRange lib min.text max.text) ↔
      ¬ min.version ≤ max.version ∨
        ¬ release min.version.major min.version.minor (-1) ≤ max.version ∧
          base min.version ≤ max.version ∧ min.version.pre = [] ∧ min.version.metadata = "") := by
  have hrange : ∀ c, getRange lib c min.text max.text = loop lib c max.version min.version := by
    intro c
    funext rounds
    rw [getRange, min.parses, max.parses]
  rw [getMinorRange, getPatchRange, hrange, hrange, exact_loop_iff min.parses,
    exact_loop_iff min.parses]
  simp [Component.release]

namespace Releases

def number (digits : List Char) : UInt64 := UInt64.ofNat (Nat.ofDigitChars 10 digits 0)

def read (text : String) : Except String Version :=
  match text.toList.splitOn '.' with
  | [a, b, c] =>
    if (a ++ b ++ c).all Char.isDigit then .ok (release (number a) (number b) (number c))
    else .error "invalid semantic version"
  | _ => .error "invalid semantic version"

theorem number_toString (a : UInt64) : number (toString a).toList = a := by
  change number (toString a.toNat).toList = a
  rw [number, Nat.toString_eq_repr, Nat.toList_repr]
  simp

theorem read_release (a b c : UInt64) : read s!"{a}.{b}.{c}" = .ok (release a b c) := by
  have hdot : ∀ n : UInt64, '.' ∉ (toString n).toList := fun n => Text.notMem_toString rfl
  have hdigits : ∀ n : UInt64, (toString n).toList.all Char.isDigit = true := fun n =>
    all_eq_true.2 fun x hx => Text.isDigit_of_mem_toString hx
  have hsplit : (toString a ++ "." ++ toString b ++ "." ++ toString c).toList.splitOn '.' =
      [(toString a).toList, (toString b).toList, (toString c).toList] := by
    simpa [intercalate] using splitOn_intercalate '.'
      (show ∀ l ∈ [(toString a).toList, (toString b).toList, (toString c).toList], '.' ∉ l by
        simp [hdot]) (by simp)
  change read (toString a ++ "." ++ toString b ++ "." ++ toString c) = _
  rw [read, hsplit]
  simp [hdigits, number_toString]

/-- A reader and a printer of releases. -/
def plain : Library where
  newVersion := read
  string v := s!"{v.major}.{v.minor}.{v.patch}"
  string_release _ _ _ := rfl
  newVersion_release := read_release
  newVersion_string {text v} h := by
    unfold read at h
    split at h
    · split_ifs at h
      cases h
      exact read_release _ _ _
    · cases h

def parsable (a b c : UInt64) : Parsable plain :=
  ⟨s!"{a}.{b}.{c}", release a b c, read_release a b c⟩

theorem supported_minors_exact :
    Exact plain .minor (release 1 30 5) (release 1 32 0)
      (getMinorRange plain "1.30.5" "1.32.0") := by
  refine (ranges_exact_iff (parsable 1 30 5) (parsable 1 32 0)).1.mpr (.inr ?_)
  show ¬ release 1 (-1) 0 ≤ release 1 32 0 ∧ release 1 30 5 ≤ release 1 32 0
  exact ⟨fun h => absurd (le_iff.1 h) (by decide), le_iff.2 (by decide)⟩

/-- The minor releases from 1.30.0 to 2.0.0 are endless. -/
theorem minor_range_endless :
    ¬ ∃ rounds list, getMinorRange plain "1.30.0" "2.0.0" rounds = some list := by
  rintro ⟨rounds, list, h⟩
  have hmin : plain.newVersion "1.30.0" = .ok (release 1 30 0) := read_release 1 30 0
  have hmax : plain.newVersion "2.0.0" = .ok (release 2 0 0) := read_release 2 0 0
  rw [getMinorRange, getRange, hmin, hmax] at h
  have hlast : Component.minor.release (release 1 30 0) (-1) 0 ≤ release 2 0 0 :=
    le_iff.2 (.inl (by decide))
  cases (loop_endless hlast 30).symm.trans h

end Releases

end KubeOne.Semverutil
