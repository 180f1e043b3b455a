import Mathlib.Data.List.Nodup
import Px4.Px4d.Arguments

/-!
# The two scans of the daemon's arguments

* `optionRound_next`, `optionRound_pass`: what the second scan goes on with.
* `scans`: the two scans side by side.
* `px4d_arguments`: the scans agree, the second one never meets what the first one looks for, and an
  accepted result is complete.
-/

namespace Px4.Px4d

open Lib (Advance Role Walk walk walk_stop walk_next walk_pass walk_inv)

/-! ## Options -/

/-- The options that take a value. -/
def TakesValue (option : Token) : Prop :=
  option = optionDevice ∨ option = optionInstance ∨ option = optionFirmware ∨
    option = optionRuntimeDir ∨
    option = optionFd

instance (option : Token) : Decidable (TakesValue option) := by
  unfold TakesValue
  infer_instance

/-- A value that begins with a single dash. -/
def SingleDash (value : Token) : Prop := hasDash value = true ∧ hasDashes value = false

theorem TakesValue.dashes {option : Token} (h : TakesValue option) : hasDashes option = true := by
  rcases h with rfl | rfl | rfl | rfl | rfl
  · decide
  · decide
  · decide
  · decide
  · decide

theorem not_takesValue_of_not_dashes {option : Token} (h : hasDashes option = false) :
    ¬TakesValue option := by
  intro htakes
  rw [htakes.dashes] at h
  cases h

/-- An option that takes a value has no short form. -/
theorem takesValue_longOption {option : Token} (h : TakesValue (longOption option)) :
    longOption option = option := by
  unfold longOption at h ⊢
  split at h
  · exact absurd h (by decide)
  · split at h
    · exact absurd h (by decide)
    · next hhelp hverbose => rw [if_neg hhelp, if_neg hverbose]

theorem longOption_of_takesValue {option : Token} (h : TakesValue option) :
    longOption option = option := by
  rcases h with rfl | rfl | rfl | rfl | rfl
  · decide
  · decide
  · decide
  · decide
  · decide

theorem not_takesValue {option long : Token} (h : longOption option = long)
    (hlong : ¬TakesValue long) :
    ¬TakesValue option := by
  intro htakes
  rw [longOption_of_takesValue htakes] at h
  exact hlong (h ▸ htakes)

/-! ## Rounds -/

/-- The error of the second scan when it meets what the first one looks for. -/
def metadataScanFailed : String := "metadata scan failed"

/-- What a round of the second scan does. -/
inductive Round (s : Parsing) : Option Token → Option (Option Token) →
    Advance Parsing Px4dArguments → Prop
  | failed {argument : Option Token} {next : Option (Option Token)} {message : String} :
      message ≠ metadataScanFailed → Round s argument next (.stop (invalid message))
  | metadata {option : Token} {next : Option (Option Token)} :
      option = optionHelp ∨ option = shortHelp ∨ option = optionVersion →
      Round s (some option) next (.stop (invalid metadataScanFailed))
  | listed {argument : Option Token} {next : Option (Option Token)} {listJson models : Bool} :
      listJson = true ∨ models = true →
      Round s argument next (.stop { s.result with valid := true, listJson, models })
  | flag {option : Token} {next : Option (Option Token)}
      {group verbose allowLnbPower exitOnStdinEof haveAllow : Bool} :
      ¬TakesValue option → Round s (some option) next (.next { s with
        haveAllowLnbPower := haveAllow
        result := { s.result with group, verbose, allowLnbPower, exitOnStdinEof } })
  | value {option value : Token} {a : Advance Parsing Px4dArguments} :
      TakesValue option → value ≠ [] →
      hasDashes value = false → takeOption s option value = a →
      Round s (some option) (some (some value)) a

theorem takeValue_some {next : Option (Option Token)} {value : Token}
    (h : takeValue next = some value) :
    next = some (some value) ∧ value ≠ [] ∧ hasDashes value = false := by
  unfold takeValue at h
  split at h
  · split at h
    · cases h
    · next hgood =>
      cases h
      exact ⟨rfl, fun hempty => hgood (.inl hempty), Bool.of_not_eq_true fun hdashes =>
        hgood (.inr hdashes)⟩
  · cases h

/-- **A round of the second scan.** -/
theorem optionRound_spec (windows : Bool) (argc : Nat) (s : Parsing) (argument : Option Token)
    (next : Option (Option Token)) : Round s argument next
    (optionRound windows argc s argument next) := by
  unfold optionRound
  cases argument with
  | none => exact .failed (by decide)
  | some option =>
    dsimp only
    split
    · next hmetadata =>
      refine .metadata ?_
      unfold longOption at hmetadata
      split at hmetadata
      · next hshort => exact .inr (.inl hshort)
      · split at hmetadata
        · exact absurd hmetadata (by decide)
        · exact hmetadata.imp_right .inr
    split
    · split
      · exact .failed (by decide)
      · exact .listed (.inl rfl)
    split
    · split
      · exact .failed (by decide)
      · exact .listed (.inr rfl)
    split
    · next hgroup =>
      split
      · exact .failed (by decide)
      · exact .flag (not_takesValue hgroup (by decide))
    split
    · next hverbose => exact .flag (not_takesValue hverbose (by decide))
    split
    · next hallow =>
      split
      · exact .failed (by decide)
      · exact .flag (not_takesValue hallow (by decide))
    split
    · next hexit =>
      split
      · exact .failed (by decide)
      · exact .flag (not_takesValue hexit.2 (by decide))
    split
    · exact .failed (by decide)
    · next hknown =>
      have htakes : TakesValue (longOption option) := by
        unfold TakesValue
        by_contra hnone
        simp only [not_or] at hnone
        exact hknown ⟨hnone.1, hnone.2.2.1, hnone.2.2.2.1, hnone.2.2.2.2, hnone.2.1⟩
      have hlong := takesValue_longOption htakes
      rw [hlong] at htakes ⊢
      cases hvalue : takeValue next with
      | none => exact .failed (by decide)
      | some value =>
        obtain ⟨rfl, hne, hdashes⟩ := takeValue_some hvalue
        exact .value htakes hne hdashes rfl

/-! ## Results -/

/-- What holds of the variables of the second loop. -/
structure Parsing.Sound (s : Parsing) : Prop where
  valid : s.result.valid = false
  error : s.result.error = ""
  distinct : s.result.fileDescriptors.Nodup
  few : s.result.fileDescriptors.length ≤ 2
  device : s.haveDevice = true → s.result.device ≠ []
  deviceInstance : s.haveInstance = true → s.result.deviceInstance ≠ []
  usbSelector : s.result.usbSelector = false

theorem sound_initial : Parsing.Sound {} :=
  ⟨rfl, rfl, List.nodup_nil, Nat.zero_le 2, nofun, nofun, rfl⟩

/-- What comes of an option with its value. -/
inductive Taken : Advance Parsing Px4dArguments → Prop
  | pass {s' : Parsing} : s'.Sound → Taken (.pass s')
  | stop {message : String} : message ≠ metadataScanFailed → Taken (.stop (invalid message))

/-- **An option with its value.** -/
theorem takeOption_spec {s : Parsing} (hs : s.Sound) (option : Token) {value : Token}
    (hvalue : value ≠ []) :
    Taken (takeOption s option value) := by
  unfold takeOption
  split
  · split
    · exact .stop (by decide)
    · exact .pass { hs with device := fun _ => hvalue }
  split
  · split
    · exact .stop (by decide)
    · exact .pass { hs with deviceInstance := fun _ => hvalue }
  split
  · split
    · exact .stop (by decide)
    · exact .pass { hs with }
  split
  · split
    · exact .stop (by decide)
    · exact .pass { hs with }
  unfold takeFd
  split
  · exact .stop (by decide)
  · next hroom =>
    split
    · exact .stop (by decide)
    · next fd _ =>
      split
      · exact .stop (by decide)
      · next hfd =>
        refine .pass { hs with distinct := ?_, few := ?_ }
        · refine List.nodup_append.2 ⟨hs.distinct, List.nodup_singleton fd, fun x hx y hy => ?_⟩
          rw [List.mem_singleton.1 hy]
          exact ne_of_mem_of_not_mem hx hfd
        · rw [List.length_append]
          exact Nat.not_le.1 hroom

/-- A file descriptor is none of the options. -/
theorem takeOption_shortHelp (s s' : Parsing) : takeOption s optionFd shortHelp ≠ .pass s' := by
  have hnone : parseFd shortHelp = none := by decide
  unfold takeOption
  rw [if_neg (by decide), if_neg (by decide), if_neg (by decide), if_neg (by decide)]
  unfold takeFd
  split
  · nofun
  · rw [hnone]
    nofun

/-! ## The first scan -/

section
variable {requests : Requests} {option value : Token} {next : Option (Option Token)}

theorem metadataRound_next (h : ¬TakesValue option) :
    metadataRound requests (some option) next = .next (requests.note option) := by
  unfold metadataRound
  dsimp only
  split
  · next value =>
    have hnot : metadataTakes option value ≠ true := by
      unfold metadataTakes
      rw [if_neg fun hf => h (.inr (.inr (hf.1.imp_right .inl))), if_neg fun hd =>
        h (hd.1.imp_right .inl)]
      exact fun hfd => h (.inr (.inr (.inr (.inr (of_decide_eq_true hfd).1))))
    rw [if_neg hnot]
  · rfl

theorem metadataRound_value : metadataRound requests (some option) (some (some value)) =
    if metadataTakes option value = true then .pass (requests.note option)
    else .next (requests.note option) := rfl

/-- **The first scan takes what the second one takes**, a value with a single dash perhaps apart. -/
theorem metadataTakes_of_takes (h : TakesValue option) (hdashes : hasDashes value = false)
    (hfd : option = optionFd → value ≠ shortHelp) : metadataTakes option value = true ∨
    hasDash value = true := by
  unfold metadataTakes
  rcases h with h | h | h | h | rfl
  · cases hdash : hasDash value with
    | true => exact .inr rfl
    | false =>
      rw [if_neg fun hf => absurd (h ▸ hf.1) (by decide), if_pos ⟨.inl h, rfl⟩]
      exact .inl rfl
  · cases hdash : hasDash value with
    | true => exact .inr rfl
    | false =>
      rw [if_neg fun hf => absurd (h ▸ hf.1) (by decide), if_pos ⟨.inr h, rfl⟩]
      exact .inl rfl
  · rw [if_pos ⟨.inl h, hdashes⟩]
    exact .inl rfl
  · rw [if_pos ⟨.inr h, hdashes⟩]
    exact .inl rfl
  · rw [if_neg fun hf => absurd hf.1 (by decide), if_neg fun hd => absurd hd.1 (by decide)]
    refine .inl (decide_eq_true ⟨rfl, hfd rfl, ?_, ?_⟩)
    · rintro rfl
      exact absurd hdashes (by decide)
    · rintro rfl
      exact absurd hdashes (by decide)

end

/-! ## The scans side by side -/

/-- An option that the first scan looks for. -/
def Asks (argument : Option Token) : Prop :=
  ∃ option, argument = some option ∧
    (option = optionHelp ∨ option = shortHelp ∨ option = optionVersion)

/-- **The two scans, side by side.** -/
inductive Scans (windows : Bool) (argc : Nat) : List (Option Token) → Parsing → Requests → Prop
  | done {s : Parsing} {r : Requests} : s.Sound → Scans windows argc [] s r
  | stop {argument : Option Token} {rest : List (Option Token)} {s : Parsing} {r : Requests}
      {result : Px4dArguments} :
      optionRound windows argc s argument rest.head? = .stop result →
      (result.error = metadataScanFailed → Asks argument) →
      (result.valid = true → result.listJson = true ∨ result.models = true) →
      Scans windows argc (argument :: rest) s r
  | next {argument : Option Token} {rest : List (Option Token)} {s s' : Parsing} {r r' : Requests} :
      optionRound windows argc s argument rest.head? = .next s' →
      metadataRound r argument rest.head? = .next r' → Scans windows argc rest s' r' →
      Scans windows argc (argument :: rest) s r
  | pass {argument value : Option Token} {rest : List (Option Token)} {s s' : Parsing}
      {r r' : Requests} :
      optionRound windows argc s argument (some value) = .pass s' →
      metadataRound r argument (some value) = .pass r' → Scans windows argc rest s' r' →
      Scans windows argc (argument :: value :: rest) s r
  | dash {argument : Option Token} {value : Token} {rest : List (Option Token)} {s s' : Parsing}
      {r r' r'' : Requests} :
      optionRound windows argc s argument (some (some value)) = .pass s' →
      metadataRound r argument (some (some value)) = .next r' →
      metadataRound r' (some value) rest.head? = .next r'' → SingleDash value →
      Scans windows argc rest s' r'' →
      Scans windows argc (argument :: some value :: rest) s r

/-- The two scans can be run so. -/
theorem scans (windows : Bool) (argc : Nat) (xs : List (Option Token)) {s : Parsing}
    (hs : s.Sound) (r : Requests) :
    Scans windows argc xs s r := by
  match xs with
  | [] => exact .done hs
  | argument :: rest =>
    have hround := optionRound_spec windows argc s argument rest.head?
    generalize hnext : rest.head? = next at hround
    generalize ha : optionRound windows argc s argument next = a at hround
    rw [← hnext] at ha
    cases hround with
    | failed hmessage => exact .stop ha (fun h => absurd h hmessage) nofun
    | metadata hoption => exact .stop ha (fun _ => ⟨_, rfl, hoption⟩) nofun
    | listed hlisted =>
      refine .stop ha (fun h => ?_) fun _ => hlisted
      exact absurd (hs.error.symm.trans h) (by decide)
    | flag hoption =>
      refine .next ha (metadataRound_next hoption) (scans windows argc rest ?_ _)
      exact ⟨hs.valid, hs.error, hs.distinct, hs.few, hs.device, hs.deviceInstance, hs.usbSelector⟩
    | @value option value _ hoption hvalue hdashes htake =>
      match rest with
      | [] => cases hnext
      | _ :: rest =>
        cases hnext
        have htaken := takeOption_spec hs option hvalue
        rw [htake] at htaken
        cases htaken with
        | stop hmessage => exact .stop ha (fun h => absurd h hmessage) nofun
        | pass hs' =>
          have hfd : option = optionFd → value ≠ shortHelp := by
            rintro rfl rfl
            exact takeOption_shortHelp s _ htake
          have hmetadata := @metadataRound_value r option value
          by_cases htakes : metadataTakes option value = true
          · rw [if_pos htakes] at hmetadata
            exact .pass ha hmetadata (scans windows argc rest hs' _)
          · have hdash := (metadataTakes_of_takes hoption hdashes hfd).resolve_left htakes
            rw [if_neg htakes] at hmetadata
            exact .dash ha hmetadata (metadataRound_next (not_takesValue_of_not_dashes hdashes))
              ⟨hdash, hdashes⟩
              (scans windows argc rest hs' _)
termination_by xs.length

/-! ## Positions -/

/-- The scans agree on what a position is, unless it is a value with a single dash. -/
def Agrees (xs : List (Option Token)) (roles roles' : List Role) : Prop :=
  ∀ (j : Nat) (role : Role), roles[j]? = some role →
    roles'[j]? = some role ∨ ∃ value, xs[j]? = some (some value) ∧ SingleDash value

theorem Agrees.cons {xs : List (Option Token)} {roles roles' : List Role}
    {x : Option Token} {role : Role} (h : Agrees xs roles roles') :
    Agrees (x :: xs) (role :: roles) (role :: roles') := by
  intro j role' hrole
  cases j with
  | zero => exact .inl hrole
  | succ j => exact h j role' hrole

theorem Agrees.dash {xs : List (Option Token)} {roles roles' : List Role} {value : Token}
    {role role' : Role} (hvalue : SingleDash value) (h : Agrees xs roles roles') :
    Agrees (some value :: xs) (role :: roles) (role' :: roles') := by
  intro j role'' hrole
  cases j with
  | zero => exact .inr ⟨value, rfl, hvalue⟩
  | succ j => exact h j role'' hrole

theorem Agrees.nil (xs : List (Option Token)) (roles : List Role) : Agrees xs [] roles := nofun

/-- A position at which a loop begins has been seen. -/
theorem walk_seen {α S R : Type} {body : S → α → Option α → Advance S R} {a : α}
    {rest : List α} {s : S} :
    ∃ roles, (walk body (a :: rest) s).roles = .seen :: roles := by
  cases h : body s a rest.head? with
  | stop r => exact ⟨[], by rw [walk_stop h]⟩
  | next s' => exact ⟨_, by rw [walk_next h]; rfl⟩
  | pass s' =>
    cases rest with
    | nil => exact ⟨[], by rw [walk, h]⟩
    | cons b rest => exact ⟨_, by rw [walk_pass h]; rfl⟩

variable {windows : Bool} {argc : Nat} {xs : List (Option Token)} {s : Parsing} {r : Requests}

/-- **The scans agree.** -/
theorem Scans.agrees (h : Scans windows argc xs s r) :
    Agrees xs (walk (optionRound windows argc) xs s).roles (walk metadataRound xs r).roles := by
  induction h with
  | done => exact .nil _ _
  | @stop argument rest s r result hoption _ _ =>
    obtain ⟨roles, hroles⟩ := @walk_seen _ _ _ metadataRound argument rest r
    rw [walk_stop hoption, hroles]
    exact .cons (.nil _ _)
  | next hoption hmetadata _ ih =>
    rw [walk_next hoption, walk_next hmetadata]
    exact .cons ih
  | pass hoption hmetadata _ ih =>
    rw [walk_pass hoption, walk_pass hmetadata]
    exact .cons (.cons ih)
  | dash hoption hmetadata hmetadata' hdash _ ih =>
    rw [walk_pass hoption, walk_next hmetadata, walk_next hmetadata']
    exact .cons (.dash hdash ih)

/-! ## Outcomes -/

/-- `--help` or `--version` has been met. -/
def Requests.Asked (r : Requests) : Prop := r.help = true ∨ r.version = true

theorem Requests.Asked.note (h : r.Asked) (option : Token) : (r.note option).Asked := by
  unfold Requests.note
  split
  · exact .inl rfl
  · split
    · exact .inr rfl
    · exact h

theorem asked_note {option : Token}
    (h : option = optionHelp ∨ option = shortHelp ∨ option = optionVersion) :
    (r.note option).Asked := by
  unfold Requests.note
  split
  · exact .inl rfl
  · next hhelp =>
    split
    · exact .inr rfl
    · next hversion =>
        exact absurd (h.elim (fun h => .inl (.inl h)) fun h => h.imp_left .inr)
          (not_or.2 ⟨hhelp, hversion⟩)

/-- What the first scan ends with. -/
theorem metadata_ok (xs : List (Option Token)) (r : Requests) :
    ∃ r', (walk metadataRound xs r).outcome = .ok r' := by
  cases h : (walk metadataRound xs r).outcome with
  | ok r' => exact ⟨r', rfl⟩
  | error e => exact e.elim

/-- What has been met stays so. -/
theorem asked_walk (h : r.Asked) (xs : List (Option Token)) {r' : Requests}
    (houtcome : (walk metadataRound xs r).outcome = .ok r') : r'.Asked := by
  have hround {s s' : Requests} {argument : Option Token}
      {next : Option (Option Token)} (hs : s.Asked)
      (hbody : metadataRound s argument next = .next s' ∨
        metadataRound s argument next = .pass s') : s'.Asked := by
    unfold metadataRound at hbody
    cases argument with
    | none =>
      rcases hbody with hbody | hbody
      · cases hbody
        exact hs
      · cases hbody
    | some option =>
      have hnote := hs.note option
      dsimp only at hbody
      split at hbody
      · split at hbody
        · rcases hbody with hbody | hbody
          · cases hbody
          · cases hbody
            exact hnote
        · rcases hbody with hbody | hbody
          · cases hbody
            exact hnote
          · cases hbody
      · rcases hbody with hbody | hbody
        · cases hbody
          exact hnote
        · cases hbody
  have hinv := @walk_inv _ _ _ metadataRound Requests.Asked (fun _ => True)
    (fun _ _ _ _ hs hbody => hround hs (.inl hbody))
    (fun _ _ _ _ hs hbody => hround hs (.inr hbody))
    (fun _ _ _ _ _ _ => trivial) xs r h
  rw [houtcome] at hinv
  exact hinv

/-- What a stopped scan has returned. -/
structure Stopped (r' : Requests) (result : Px4dArguments) : Prop where
  asked : result.error = metadataScanFailed → r'.Asked
  listed : result.valid = true → result.listJson = true ∨ result.models = true

/-- **The outcomes of the scans.** -/
theorem Scans.outcome (h : Scans windows argc xs s r) {r' : Requests}
    (houtcome : (walk metadataRound xs r).outcome = .ok r') :
    match (walk (optionRound windows argc) xs s).outcome with
    | .ok s' => s'.Sound
    | .error result => Stopped r' result := by
  induction h with
  | done hs => exact hs
  | @stop argument rest s r result hoption hasks hlisted =>
    rw [walk_stop hoption]
    refine ⟨fun herror => ?_, hlisted⟩
    obtain ⟨option, rfl, hasked⟩ := hasks herror
    have hnot : ¬TakesValue option := by
      rcases hasked with rfl | rfl | rfl
      · decide
      · decide
      · decide
    rw [walk_next (metadataRound_next hnot)] at houtcome
    exact asked_walk (asked_note hasked) rest houtcome
  | next hoption hmetadata _ ih =>
    rw [walk_next hmetadata] at houtcome
    rw [walk_next hoption]
    exact ih houtcome
  | pass hoption hmetadata _ ih =>
    rw [walk_pass hmetadata] at houtcome
    rw [walk_pass hoption]
    exact ih houtcome
  | dash hoption hmetadata hmetadata' _ _ ih =>
    rw [walk_next hmetadata, walk_next hmetadata'] at houtcome
    rw [walk_pass hoption]
    exact ih houtcome

/-! ## Accepted results -/

/-- A result with which the daemon is to run. -/
def Accepted (result : Px4dArguments) : Prop :=
  result.valid = true ∧ result.help = false ∧ result.version = false ∧ result.listJson = false ∧
    result.models = false

/-- **A complete result.** -/
structure Complete (result : Px4dArguments) : Prop where
  few : result.fileDescriptors.length ≤ 2
  distinct : result.fileDescriptors.Nodup
  firmware : result.firmware ≠ []
  device : result.fileDescriptors = [] → result.device ≠ []
  runtimeDirectory : result.group = true → result.runtimeDirectory ≠ []
  usbSelector : result.usbSelector = true → result.deviceInstance ≠ [] ∧ result.fileDescriptors = []

/-- What `finish` returns. -/
inductive Finished : Px4dArguments → Prop
  | failed {message : String} : message ≠ metadataScanFailed → Finished (invalid message)
  | complete {result : Px4dArguments} : result.error = "" → Complete result → Finished result

/-- What `--device` selects: the USB paths change, and nothing else. -/
inductive Selected (s : Parsing) : Except Px4dArguments Px4dArguments → Prop
  | ok (usbSelector : Bool) (usbPaths : List Token) :
      Selected s (.ok { s.result with usbSelector, usbPaths })
  | error {message : String} : message ≠ metadataScanFailed → Selected s (.error (invalid message))

theorem selectDevice_spec (identity : Identity) (s : Parsing) :
    Selected s (selectDevice identity s) := by
  have hsame : Selected s (.ok s.result) := .ok s.result.usbSelector s.result.usbPaths
  unfold selectDevice
  split
  · exact hsame
  split
  · exact .error (by decide)
  · split
    · exact .error (by decide)
    · exact hsame
  · split
    · exact .error (by decide)
    · exact .ok true _

/-- **The checks after the second loop.** -/
theorem finish_spec {identity : Identity} (hs : s.Sound) : Finished (finish identity s) := by
  unfold finish
  split
  · exact .failed (by decide)
  · next hmode =>
    have hselected := selectDevice_spec identity s
    generalize selectDevice identity s = selected at hselected ⊢
    cases hselected with
    | error hmessage => exact .failed hmessage
    | ok usbSelector usbPaths =>
      dsimp only
      split
      · exact .failed (by decide)
      split
      · exact .failed (by decide)
      split
      · exact .failed (by decide)
      split
      · exact .failed (by decide)
      split
      · exact .failed (by decide)
      split
      · exact .failed (by decide)
      · next hinstance husb hnamed hfirmware hruntime hgroup =>
        refine .complete hs.error ⟨hs.few, hs.distinct, fun h => hfirmware (.inr h), fun hfds =>
          ?_, fun hg => ?_,
          fun hu => ⟨?_, ?_⟩⟩
        · exact hs.device (Bool.of_not_eq_false fun h => hmode ⟨hfds, h⟩)
        · exact fun h => hruntime ⟨Bool.of_not_eq_false fun hr => hgroup ⟨hg, hr⟩, h⟩
        · exact hs.deviceInstance (Bool.of_not_eq_false fun h => hnamed ⟨hu, h⟩)
        · exact of_not_not fun h => husb ⟨hu, h⟩

/-- What the parser returns. -/
inductive Parsed : Px4dArguments → Prop
  | metadata {result : Px4dArguments} : result.error = "" → result.help = true ∨
      result.version = true → Parsed result
  | stopped {result : Px4dArguments} : result.error ≠ metadataScanFailed →
      (result.valid = true → result.listJson = true ∨ result.models = true) → Parsed result
  | finished {result : Px4dArguments} : Finished result → Parsed result

/-- **The parser.** -/
theorem parsePx4dArguments_spec (windows : Bool) (identity : Identity)
    (argv : Option (List (Option Token))) :
    Parsed (parsePx4dArguments windows identity argv) := by
  unfold parsePx4dArguments
  split
  · next arguments =>
    dsimp only
    obtain ⟨r, hr⟩ := metadata_ok arguments {}
    have hrequested : requested arguments = r := by
      unfold requested scanMetadata
      rw [hr]
    rw [hrequested]
    split
    · next hasked =>
      refine .metadata rfl ?_
      cases hhelp : r.help with
      | true => exact .inl rfl
      | false =>
        rw [hhelp] at hasked
        exact .inr (hasked.resolve_left nofun)
    · next hnone =>
      have houtcome := (scans windows (arguments.length + 1) arguments sound_initial {}).outcome hr
      unfold scanOptions
      generalize (walk (optionRound windows (arguments.length + 1)) arguments {}).outcome =
        outcome at houtcome ⊢
      cases outcome with
      | ok s => exact .finished (finish_spec houtcome)
      | error result => exact .stopped (fun h => hnone (houtcome.asked h)) houtcome.listed
  · exact .stopped (by decide) nofun

/-- **The arguments of the daemon.** Whatever the external parsers answer, the second scan never
meets what the first one looks for, the scans agree until the second one rejects the vector, and an
accepted result is complete. -/
theorem px4d_arguments (windows : Bool) (identity : Identity) :
    (∀ argv, (parsePx4dArguments windows identity argv).error ≠ metadataScanFailed) ∧
    (∀ arguments : List (Option Token),
      Agrees arguments (scanOptions windows arguments).roles (scanMetadata arguments).roles) ∧
    ∀ argv, Accepted (parsePx4dArguments windows identity argv) →
      Complete (parsePx4dArguments windows identity argv) := by
  refine ⟨fun argv => ?_, fun arguments => ?_, fun argv haccepted => ?_⟩
  · have hparsed := parsePx4dArguments_spec windows identity argv
    generalize parsePx4dArguments windows identity argv = result at hparsed ⊢
    cases hparsed with
    | metadata herror _ =>
      rw [herror]
      decide
    | stopped herror _ => exact herror
    | finished hfinished =>
      cases hfinished with
      | failed hmessage => exact hmessage
      | complete herror _ =>
        rw [herror]
        decide
  · exact (scans windows (arguments.length + 1) arguments sound_initial {}).agrees
  · have hparsed := parsePx4dArguments_spec windows identity argv
    generalize parsePx4dArguments windows identity argv = result at hparsed haccepted ⊢
    obtain ⟨hvalid, hhelp, hversion, hlist, hmodels⟩ := haccepted
    cases hparsed with
    | metadata _ hasked =>
      rw [hhelp, hversion] at hasked
      exact hasked.elim nofun nofun
    | stopped _ hlisted =>
      have hlists := hlisted hvalid
      rw [hlist, hmodels] at hlists
      exact hlists.elim nofun nofun
    | finished hfinished =>
      cases hfinished with
      | failed => cases hvalid
      | complete _ hcomplete => exact hcomplete

/-- Parsers that know no device. -/
def noDevices : Identity := ⟨fun _ => none, some⟩

/-- `px4d --fd 10 --firmware f`. -/
def fdArguments : List (Option Token) :=
  [some (literal ['p', 'x', '4', 'd']), some optionFd, some (literal ['1', '0']),
    some optionFirmware,
    some (literal ['f'])]

/-- That vector is accepted, and its result is complete. -/
theorem px4d_arguments_fd : Complete (parsePx4dArguments false noDevices (some fdArguments)) :=
  (px4d_arguments false noDevices).2.2 (some fdArguments) (by unfold Accepted; decide)

end Px4.Px4d
