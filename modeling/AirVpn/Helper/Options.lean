import AirVpn.Model.Helper
import AirVpn.Service.Handlers

/-! # The options of the helper

The option loop undoes the command that `run_openvpn` passes with `--up`, and it
neither reads nor shifts outside of the argument vector.
-/

namespace AirVpn.Helper

open Service (Config upCommand)

/-! ## Bounds -/

/-- The loop ends, with an index in the vector or one after it, or with `exit`. -/
def LoopOutcome.InBounds (argv : List (List Char)) : LoopOutcome → Prop
  | .stopped i _ => 1 ≤ i ∧ i ≤ argv.length
  | .exits _ => True
  | .outside | .running => False

theorem optionLoop_inBounds (isName : List Char → Bool) {argv : List (List Char)} {fuel i : Nat}
    (hlo : 1 ≤ i) (hhi : i ≤ argv.length) (hfuel : argv.length < i + fuel) (options : Options) :
    (optionLoop isName argv fuel i options).InBounds argv := by
  induction fuel generalizing i options with
  | zero => exact absurd hfuel (by omega)
  | succ fuel ih =>
      unfold optionLoop
      split
      · exact ⟨hlo, hhi⟩
      · next hlt =>
          rw [List.getElem?_eq_getElem (by omega)]
          dsimp only
          split
          · exact ⟨by omega, by omega⟩
          split
          · split
            · trivial
            · rw [List.getElem?_eq_getElem (by omega), List.getElem?_eq_getElem (by omega)]
              exact ih (by omega) (by omega) (by omega) _
          split
          · exact ih (by omega) (by omega) (by omega) _
          split
          · exact ih (by omega) (by omega) (by omega) _
          split
          · split
            · trivial
            · rw [List.getElem?_eq_getElem (by omega)]
              dsimp only
              split
              · trivial
              · exact ih (by omega) (by omega) (by omega) _
          · exact ⟨hlo, hhi⟩

theorem shiftArgs_isSome {argv : List (List Char)} (hne : argv ≠ []) {shift : Nat}
    (h : shift < argv.length) : (shiftArgs argv shift).isSome = true := by
  unfold shiftArgs
  rw [if_pos h]
  split
  · rfl
  · obtain ⟨name, rest, rfl⟩ := List.exists_cons_of_ne_nil hne
    rfl

/-! ## The command -/

/-- The arguments after the program in the command that `run_openvpn` writes. -/
def upArgs (level : Int) (pid : Nat) (name : List Char) : List (List Char) :=
  ["--debug".toList, (toString level).toList, (toString pid).toList, "--bus-name".toList, name,
    "--tun".toList, "--".toList]

theorem toList_upCommand (cfg : Config) :
    (upCommand cfg).toList = cfg.helperPath.toList ++
      (upArgs cfg.logLevel cfg.daemonPid cfg.busName.toList).flatMap (' ' :: ·) := by
  simp [upCommand, upArgs]

def Solid (word : List Char) : Prop := word ≠ [] ∧ ∀ c ∈ word, isSpace c = false

theorem solid_of_plain {word : List Char} (h : Decimal.Plain word) : Solid word :=
  ⟨h.ne_nil, fun c hc => isSpace_of_isDigit (h.digits c hc)⟩

theorem toList_toString_level {level : Int} (h : 0 ≤ level) :
    (toString level).toList = Nat.toDigits 10 level.toNat := by
  obtain ⟨n, rfl⟩ := Int.eq_ofNat_of_zero_le h
  show (Nat.repr n).toList = Nat.toDigits 10 n
  simp

theorem solid_upArgs {level : Int} (hlevel : 0 ≤ level) (pid : Nat) {name : List Char}
    (hname : Solid name) : ∀ word ∈ upArgs level pid name, Solid word := by
  have hpid : (toString pid).toList = Nat.toDigits 10 pid := by simp
  intro word hword
  simp only [upArgs, List.mem_cons, List.not_mem_nil, or_false] at hword
  rcases hword with rfl | rfl | rfl | rfl | rfl | rfl | rfl
  · exact ⟨by decide, Text.forall_of_all (by decide)⟩
  · exact toList_toString_level hlevel ▸ solid_of_plain (Decimal.plain_toDigits _)
  · exact hpid ▸ solid_of_plain (Decimal.plain_toDigits _)
  · exact ⟨by decide, Text.forall_of_all (by decide)⟩
  · exact hname
  · exact ⟨by decide, Text.forall_of_all (by decide)⟩
  · exact ⟨by decide, Text.forall_of_all (by decide)⟩

theorem words_upCommand {cfg : Config} (hlevel : 0 ≤ cfg.logLevel)
    (hname : Solid cfg.busName.toList) :
    Text.words isSpace (upCommand cfg).toList = Text.words isSpace cfg.helperPath.toList ++
      upArgs cfg.logLevel cfg.daemonPid cfg.busName.toList := by
  rw [toList_upCommand]
  exact Text.words_append_flatMap (by decide) _ (solid_upArgs hlevel _ hname)

/-! ## The loop on the command -/

theorem level_upArgs {level : Int} (hlo : 0 ≤ level) (hhi : level ≤ 7) :
    (nmUtilsAsciiStrToInt64 (some (toString level).toList) 0 logDebug).getD 0 = level := by
  have hcast : (level.toNat : Int) = level := Int.toNat_of_nonneg hlo
  rw [toList_toString_level hlo, nmUtilsAsciiStrToInt64_toDigits (by decide) (by decide) (by omega)
    (by unfold logDebug; omega), Option.getD_some, hcast]

section

variable {isName : List Char → Bool} {argv : List (List Char)} {i : Nat} (fuel : Nat)
  (options : Options)

theorem not_length_le {arg : List Char} (h : argv[i]? = some arg) : ¬ argv.length ≤ i := by
  intro hle
  rw [List.getElem?_eq_none hle] at h
  cases h

theorem optionLoop_end (h : argv[i]? = some "--".toList) :
    optionLoop isName argv (fuel + 1) i options = .stopped (i + 1) options := by
  rw [optionLoop, if_neg (not_length_le h), h]
  rfl

theorem optionLoop_debug {level token : List Char} (h : argv[i]? = some "--debug".toList)
    (hlevel : argv[i + 1]? = some level) (htoken : argv[i + 2]? = some token) :
    optionLoop isName argv (fuel + 1) i options =
      optionLoop isName argv fuel (i + 3)
        { options with
          logLevel := (nmUtilsAsciiStrToInt64 (some level) 0 logDebug).getD 0
          logPrefixToken := some token } := by
  rw [optionLoop, if_neg (not_length_le h), h]
  dsimp only
  rw [if_neg (by decide), if_pos rfl, if_neg (not_length_le htoken), hlevel, htoken]

theorem optionLoop_tun (h : argv[i]? = some "--tun".toList) :
    optionLoop isName argv (fuel + 1) i options =
      optionLoop isName argv fuel (i + 1) { options with tapdev := some false } := by
  rw [optionLoop, if_neg (not_length_le h), h]
  dsimp only
  rw [if_neg (by decide), if_neg (by decide), if_pos rfl]

theorem optionLoop_busName {name : List Char} (h : argv[i]? = some "--bus-name".toList)
    (hname : argv[i + 1]? = some name) (hvalid : isName name = true) :
    optionLoop isName argv (fuel + 1) i options =
      optionLoop isName argv fuel (i + 2) { options with busName := name } := by
  have hlt := not_length_le hname
  rw [optionLoop, if_neg (not_length_le h), h]
  dsimp only
  rw [if_neg (by decide), if_neg (by decide), if_neg (by decide), if_neg (by decide), if_pos rfl,
    if_neg (by omega), hname]
  dsimp only
  rw [hvalid]
  rfl

end

theorem optionLoop_upArgs {isName : List Char → Bool} {level : Int} (hlo : 0 ≤ level)
    (hhi : level ≤ 7) (pid : Nat) {name : List Char} (hname : isName name = true)
    (prog : List Char) (xs : List (List Char)) (fuel : Nat) :
    optionLoop isName (prog :: (upArgs level pid name ++ xs)) (fuel + 4) 1 initOptions =
      .stopped 8 ⟨level, some (toString pid).toList, some false, name⟩ := by
  rw [optionLoop_debug _ _ rfl rfl rfl, level_upArgs hlo hhi, optionLoop_busName _ _ rfl rfl hname,
    optionLoop_tun _ _ rfl, optionLoop_end _ _ rfl]

theorem shiftArgs_upArgs (level : Int) (pid : Nat) (name prog : List Char)
    (xs : List (List Char)) :
    shiftArgs (prog :: (upArgs level pid name ++ xs)) 7 = some (prog :: xs) := by
  unfold shiftArgs upArgs
  simp

/-! ## The two are inverse -/

theorem parseArgs_upArgs {lib : Libs} {level : Int} (hlo : 0 ≤ level) (hhi : level ≤ 7) (pid : Nat)
    {name : List Char} (hname : lib.gDbusIsName name = true) (prog : List Char)
    (xs : List (List Char)) :
    parseArgs lib (prog :: (upArgs level pid name ++ xs)) =
      .ok (⟨level, some (toString pid).toList, some false, name⟩, prog :: xs) := by
  have hlength : (prog :: (upArgs level pid name ++ xs)).length + 1 = (xs.length + 5) + 4 := by
    simp [upArgs]
  unfold parseArgs
  rw [hlength, optionLoop_upArgs hlo hhi pid hname]
  dsimp only
  rw [shiftArgs_upArgs]

theorem parseArgs_inBounds (lib : Libs) {argv : List (List Char)} (hne : argv ≠ []) :
    parseArgs lib argv ≠ .error .outside ∧ parseArgs lib argv ≠ .error .endless := by
  have hlength := List.length_pos_iff.mpr hne
  have hfuel : argv.length < 1 + (argv.length + 1) := by omega
  have hbounds := optionLoop_inBounds lib.gDbusIsName (Nat.le_refl 1) hlength hfuel initOptions
  unfold parseArgs
  generalize optionLoop lib.gDbusIsName argv (argv.length + 1) 1 initOptions = outcome at hbounds
  cases outcome with
  | stopped i options =>
      have hshift : i - 1 < argv.length := by
        obtain ⟨hlo, hhi⟩ := hbounds
        omega
      obtain ⟨rest, hrest⟩ := Option.isSome_iff_exists.mp (shiftArgs_isSome hne hshift)
      dsimp only
      rw [hrest]
      exact ⟨nofun, nofun⟩
  | exits message => exact ⟨nofun, nofun⟩
  | outside => exact absurd hbounds id
  | running => exact absurd hbounds id

/-- openvpn splits the command that it was given into the program and the helper's
options and appends its own arguments. The helper reads the options back and is left
with openvpn's arguments in their places; on any vector it stays in bounds. -/
theorem up_command_read_back (lib : Libs) :
    (∀ cfg : Config, 0 ≤ cfg.logLevel → cfg.logLevel ≤ 7 →
      lib.gDbusIsName cfg.busName.toList = true → Solid cfg.busName.toList →
      Text.words isSpace (upCommand cfg).toList = Text.words isSpace cfg.helperPath.toList ++
        upArgs cfg.logLevel cfg.daemonPid cfg.busName.toList ∧
      ∀ prog xs,
        parseArgs lib (prog :: (upArgs cfg.logLevel cfg.daemonPid cfg.busName.toList ++ xs)) =
          .ok (⟨cfg.logLevel, some (toString cfg.daemonPid).toList, some false,
            cfg.busName.toList⟩, prog :: xs) ∧
        (isRestart (prog :: xs) = true ↔ xs[5]? = some "restart".toList) ∧
        ∀ i, restartArg (prog :: xs) (i + 1) = if isRestart (prog :: xs) then xs[i]? else none) ∧
      ∀ argv : List (List Char), argv ≠ [] →
        parseArgs lib argv ≠ .error .outside ∧ parseArgs lib argv ≠ .error .endless := by
  refine ⟨fun cfg hlo hhi hname hsolid => ⟨words_upCommand hlo hsolid, fun prog xs =>
    ⟨parseArgs_upArgs hlo hhi _ hname prog xs, ?_, fun i => rfl⟩⟩,
    fun argv hne => parseArgs_inBounds lib hne⟩
  simp only [isRestart, Bool.and_eq_true, decide_eq_true_eq, List.length_cons,
    List.getElem?_cons_succ]
  refine ⟨fun h => h.2, fun h => ⟨?_, h⟩⟩
  have hlt := (List.getElem?_eq_some_iff.mp h).1
  omega

theorem up_command_read_back_sample :
    Text.words isSpace (upCommand (Service.sampleConfig true)).toList =
        ["/usr/libexec/nm-airvpn-service-openvpn-helper".toList] ++
          upArgs 5 612 "org.freedesktop.NetworkManager.airvpn".toList ∧
      parseArgs sampleLibs
        ("helper".toList :: (upArgs 5 612 "org.freedesktop.NetworkManager.airvpn".toList ++
          ["tun0".toList])) =
        .ok (⟨5, some "612".toList, some false,
          "org.freedesktop.NetworkManager.airvpn".toList⟩, ["helper".toList, "tun0".toList]) := by
  obtain ⟨hwords, hread⟩ := (up_command_read_back sampleLibs).1 (Service.sampleConfig true)
    (by decide) (by decide) (by decide +kernel) ⟨by decide, Text.forall_of_all (by decide +kernel)⟩
  have hpath : Text.words isSpace (Service.sampleConfig true).helperPath.toList =
      ["/usr/libexec/nm-airvpn-service-openvpn-helper".toList] :=
    Text.words_of_solid (Text.forall_of_all (by decide +kernel)) (by decide)
  refine ⟨?_, (hread "helper".toList ["tun0".toList]).1⟩
  rw [hwords, hpath]
  rfl

end AirVpn.Helper
