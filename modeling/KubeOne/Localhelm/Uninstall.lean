import KubeOne.Localhelm.Convergence

/-! Uninstalling what is no longer declared. The collected list has one entry for each stored
revision, while an uninstall removes the whole release. The second entry of a release then finds
nothing, so a run ends in an error as soon as one release has two collected revisions. -/

namespace KubeOne.Localhelm

variable {files : LocalFiles} {ds : List Declaration} {s : Storage}

def collected (files : LocalFiles) (ds : List Declaration) (s : Storage) (k : Key) :
    List Revision :=
  (s.history k).filter (releasesFilterFn files (ds.map (·.release)))

theorem condemned_nodup_iff :
    (condemned files ds s).Nodup ↔ ∀ k, (collected files ds s k).length ≤ 1 := by
  rw [List.nodup_iff_count_le_one]
  refine forall_congr' fun k => ?_
  have hcount : (condemned files ds s).count k = (collected files ds s k).length := by
    unfold condemned collected releasesToUninstall Storage.history
    rw [List.count_eq_countP, List.countP_map, List.countP_filter, List.filter_filter,
      List.countP_eq_length_filter]
    refine congrArg List.length (List.filter_congr fun r _ => ?_)
    simp [Bool.and_comm, beq_eq_decide]
  rw [hcount]

/-- A run that gets to the uninstalling, and in which uninstalling an existing release never
fails, succeeds exactly if no release has more than one collected revision. -/
theorem deploy_uninstalls_iff (files : LocalFiles) (helm : Helm) (fails : Failures)
    (ds : List Declaration) (s : Storage) (hfails : UninstallsExisting fails)
    (hdeclared : ∃ deployed, deployDeclared helm fails ds s = .ok deployed) :
    (∃ r, deploy files helm fails ds s = .ok r) ↔ ∀ k, (collected files ds s k).length ≤ 1 := by
  rw [← condemned_nodup_iff]
  constructor
  · rintro ⟨⟨s', events⟩, hrun⟩
    exact deploy_nodup hrun
  · intro hnodup
    obtain ⟨deployed, hd⟩ := hdeclared
    have hne : ∀ r ∈ releasesToUninstall files ds s, deployed.1.history r.key ≠ [] := by
      rw [deployDeclared_ok hd]
      exact collected_history_ne_nil helm
    obtain ⟨u, hu⟩ := uninstallReleases_succeeds hfails hnodup hne
    exact ⟨_, deploy_eq_ok_iff.2 ⟨deployed, hd, u, hu, rfl⟩⟩

def oldRelease : Key := ⟨"apps", "old"⟩

def installedOnce : Storage where
  revisions := [⟨oldRelease, 1, .deployed, apache, true⟩]
  distinct := by simp

theorem single_revision_uninstalled :
    ∃ r, deploy noFiles (lastOnly fun _ => apache) noFailure [] installedOnce = .ok r :=
  (deploy_uninstalls_iff noFiles (lastOnly fun _ => apache) noFailure [] installedOnce
    uninstallsExisting_noFailure ⟨_, rfl⟩).2 (by
      intro k
      exact (List.length_filter_le _ _).trans (List.length_filter_le _ _))

def upgradedOnce : Storage where
  revisions :=
    [⟨oldRelease, 1, .superseded, apache, true⟩, ⟨oldRelease, 2, .deployed, apache, true⟩]
  distinct := by simp

theorem second_revision_not_found :
    UninstallsExisting noFailure ∧
      deploy noFiles (lastOnly fun _ => apache) noFailure [] upgradedOnce =
        .error (.runtime "release: not found" "uninstalling helm release %s/%s"
          ["apps", "old"]) :=
  ⟨uninstallsExisting_noFailure, rfl⟩

end KubeOne.Localhelm
