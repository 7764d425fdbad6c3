import KubeOne.Credentials.Secret
import KubeOne.Tasks.Runner

/-! The cloud config over the attempts of the credentials task. What an attempt renders takes the
place of the template before the calls that may fail, so the next attempt renders it again. -/

namespace KubeOne.Credentials

open Process Tasks

/-- Where an attempt of `ensure` fails: before the cloud config, at its secret, or behind it. -/
inductive Reach
  | before (err : Failure)
  | refused (err : Failure)
  | behind (err : Failure)
  | done

def Reach.status : Reach → Status Failure
  | .done => .success
  | .before err | .refused err | .behind err => .failed [err]

/-- The cloud config in the memory, and its secret in the cluster. -/
structure Setup where
  cloudConfig : String
  secret : Option Secret

variable {render : String → Creds → Except String String} {ccmCreds : Creds}

def ensureAttempt (render : String → Creds → Except String String) (ccmCreds : Creds)
    (reach : Reach) : Stage Setup Failure := fun s =>
  match reach with
  | .before err => (s, .failed [err])
  | reach =>
    if s.cloudConfig = "" then (s, reach.status)
    else match render s.cloudConfig ccmCreds, reach with
      | .error err, _ => (s, .failed [.new err])
      | .ok cloudConfig, .refused _ => ({ s with cloudConfig }, reach.status)
      | .ok cloudConfig, _ => (⟨cloudConfig, some (cloudConfigSecret cloudConfig)⟩, reach.status)

/-- The part of `ensure` for the cloud config, when it succeeds, is an attempt. -/
theorem ends_ensureCloudConfig {st : State} (hconfig : st.cloudProvider.cloudConfig ≠ "")
    (secret : Option Secret) (s : Cluster) :
    (ensureCloudConfig render st ccmCreds).Ends answers (fun r t => ∀ cloudConfig,
      r = .ok cloudConfig →
        ensureAttempt render ccmCreds .done ⟨st.cloudProvider.cloudConfig, secret⟩ =
          (⟨cloudConfig, some (cloudConfigSecret cloudConfig)⟩, .success) ∧
        t (cloudConfigSecret cloudConfig).key = some (cloudConfigSecret cloudConfig).stored) s := by
  unfold ensureCloudConfig
  rw [if_pos hconfig]
  rcases hrender : render st.cloudProvider.cloudConfig ccmCreds with e | cloudConfig
  · exact fun _ h => nomatch h
  · refine Client.Ends.bind (Client.Ends.bind
      ((ends_createOrReplace (cloudConfigSecret cloudConfig) s).weaken fun r t hr => ?_))
    cases r with
    | error e => exact fun _ h => nomatch h
    | ok a =>
      rintro _ ⟨⟩
      exact ⟨by simp [ensureAttempt, hconfig, hrender, Reach.status], hr a rfl⟩

/-- A template with what it renders to. -/
structure Template (render : String → Creds → Except String String) (ccmCreds : Creds) where
  text : String
  rendered : String
  nonempty : text ≠ ""
  renders : render text ccmCreds = .ok rendered

variable {T : Template render ccmCreds}

def Template.Kept (T : Template render ccmCreds) (s : Setup) : Prop :=
  s.cloudConfig = T.text ∨ s.cloudConfig = T.rendered

theorem Template.Kept.attempt (hne : T.rendered ≠ "")
    (hstable : ∀ r, render T.rendered ccmCreds = .ok r → r = T.rendered) (reach : Reach)
    (s : Setup) (hs : T.Kept s) : T.Kept (ensureAttempt render ccmCreds reach s).1 ∧
      ((ensureAttempt render ccmCreds reach s).2 = .success →
        (ensureAttempt render ccmCreds reach s).1.secret =
          some (cloudConfigSecret T.rendered)) := by
  unfold Kept at hs ⊢
  have hset : s.cloudConfig ≠ "" := by
    rcases hs with hs | hs
    · exact hs ▸ T.nonempty
    · exact hs ▸ hne
  rcases hrender : render s.cloudConfig ccmCreds with err | r
  · cases reach <;> simp [ensureAttempt, hset, hrender, hs]
  · have hr : r = T.rendered := by
      rcases hs with hs | hs
      · exact Except.ok.inj (hrender.symm.trans (hs ▸ T.renders))
      · exact hstable r (hs ▸ hrender)
    cases reach <;> simp [ensureAttempt, hset, hrender, hr, hs, Reach.status]

/-- What the task stores when one of its attempts succeeds is what the template renders to, exactly
if that is not empty and renders to nothing else. -/
theorem cloud_config_rendered_once_iff (T : Template render ccmCreds) :
    (∀ reach secret s', Task.run 0 (ensureAttempt render ccmCreds) reach ⟨T.text, secret⟩ =
        (s', .success) → s'.secret = some (cloudConfigSecret T.rendered)) ↔
      T.rendered ≠ "" ∧ ∀ r, render T.rendered ccmCreds = .ok r → r = T.rendered := by
  constructor
  · intro h
    -- the first secret is refused, and the second attempt starts from the rendered text
    have hagain := h (fun k => if k = 0 then .refused (.new "") else .done) none
    simp only [Task.run, Stage.retryFailed, ensureAttempt, T.nonempty, T.renders, Reach.status,
      if_true, if_false] at hagain
    have hne : T.rendered ≠ "" := by
      intro hnil
      simp [hnil] at hagain
    refine ⟨hne, fun r hr => ?_⟩
    simpa [hne, hr, cloudConfigSecret] using hagain
  · rintro ⟨hne, hstable⟩ reach secret s' hrun
    exact Stage.retryFailed_success (Q := fun s => s.secret = some (cloudConfigSecret T.rendered))
      (Template.Kept.attempt hne hstable) (.inl rfl) hrun (.inl (by decide))

/-- The value of the token is itself a template, with a comment that is not rendered. -/
def renderToken (text : String) (creds : Creds) : Except String String :=
  if text = "\x7b\x7b.Credentials.TOKEN\x7d\x7d" then .ok (creds.value "TOKEN")
  else if text = "a\x7b\x7b/* b */\x7d\x7d" then .ok "a"
  else .ok text

def plainToken : Template renderToken [("TOKEN", "secret")] :=
  ⟨"\x7b\x7b.Credentials.TOKEN\x7d\x7d", "secret", by decide, rfl⟩

def secondAttempt : ℕ → Reach
  | 0 => .behind (.new "timeout")
  | _ => .done

theorem plain_token_stored : ∃ s',
    Task.run 0 (ensureAttempt renderToken [("TOKEN", "secret")]) secondAttempt
      ⟨plainToken.text, none⟩ = (s', .success) ∧
    s'.secret = some (cloudConfigSecret "secret") :=
  have hrun : Task.run 0 (ensureAttempt renderToken [("TOKEN", "secret")]) secondAttempt
      ⟨plainToken.text, none⟩ = (⟨"secret", some (cloudConfigSecret "secret")⟩, .success) := rfl
  ⟨_, hrun, (cloud_config_rendered_once_iff plainToken).mpr
    ⟨by decide, fun _ hr => (Except.ok.inj hr).symm⟩ _ _ _ hrun⟩

theorem comment_of_token_dropped : ∃ s',
    Task.run 0 (ensureAttempt renderToken [("TOKEN", "a\x7b\x7b/* b */\x7d\x7d")]) secondAttempt
      ⟨"\x7b\x7b.Credentials.TOKEN\x7d\x7d", none⟩ = (s', .success) ∧
    s'.secret ≠ some (cloudConfigSecret "a\x7b\x7b/* b */\x7d\x7d") :=
  ⟨⟨"a", some (cloudConfigSecret "a")⟩, rfl, by simp [cloudConfigSecret]⟩

end KubeOne.Credentials
