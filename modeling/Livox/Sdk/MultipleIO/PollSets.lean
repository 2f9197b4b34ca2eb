import Livox.Sdk.MultipleIO.Epoll
import Livox.Sdk.MultipleIO.Poll
import Livox.Sdk.MultipleIO.Select

open checked execution

namespace livox_lidar

/-- For each back end, what it takes for a run of additions and removals to stay inside its arrays and
sets with the descriptors that are polled those that are registered. -/
theorem poll_sets_match_iff (size : Nat) (es : List PollSetEvent) :
    (((∃ t, exec MultipleIOPoll.step (.new size) es = .ok t) ∧
        StatesSatisfy MultipleIOPoll.step MultipleIOPoll.Matches (.new size) es) ↔
      StepsSatisfy MultipleIOPoll.step MultipleIOPoll.Grows (.new size) es) ∧
    (((∃ t, exec MultipleIOSelect.step (.new size) es = .ok t) ∧
        StatesSatisfy MultipleIOSelect.step MultipleIOSelect.Matches (.new size) es) ↔
      StepsSatisfy MultipleIOSelect.step MultipleIOSelect.Tame (.new size) es) ∧
    (((∃ t, exec MultipleIOEpoll.step (.new size) es = .ok t) ∧
        StatesSatisfy MultipleIOEpoll.step MultipleIOEpoll.Matches (.new size) es) ↔
      StepsSatisfy MultipleIOEpoll.step MultipleIOEpoll.HasRoom (.new size) es) :=
  ⟨MultipleIOPoll.matches_iff size es, MultipleIOSelect.matches_iff size es,
    MultipleIOEpoll.matches_iff size es⟩

/-- `OPEN_MAX_POLL`, what the loops create their back end with. -/
def OPEN_MAX_POLL : Nat := 48

def add_fd (fd : Int) : PollSetEvent := .poll_set_add { fd, event := READBLE_EVENT } true
def remove_fd (fd : Int) : PollSetEvent := .poll_set_remove { fd, event := READBLE_EVENT }

/-- A descriptor is removed behind the one that the back end is woken up by; one that is not known is
removed above it; and 48 descriptors are added to it. -/
theorem poll_sets_broken :
    ¬ ((∃ t, exec MultipleIOPoll.step (.new OPEN_MAX_POLL) [add_fd 3, add_fd 5, remove_fd 5] = .ok t) ∧
        StatesSatisfy MultipleIOPoll.step MultipleIOPoll.Matches (.new OPEN_MAX_POLL)
          [add_fd 3, add_fd 5, remove_fd 5]) ∧
    ¬ ((∃ t, exec MultipleIOSelect.step (.new OPEN_MAX_POLL) [add_fd 3, remove_fd 5] = .ok t) ∧
        StatesSatisfy MultipleIOSelect.step MultipleIOSelect.Matches (.new OPEN_MAX_POLL)
          [add_fd 3, remove_fd 5]) ∧
    ¬ ((∃ t, exec MultipleIOEpoll.step (.new OPEN_MAX_POLL)
          ((List.range 48).map (fun i => add_fd (i + 3)) ++ [add_fd 51]) = .ok t) ∧
        StatesSatisfy MultipleIOEpoll.step MultipleIOEpoll.Matches (.new OPEN_MAX_POLL)
          ((List.range 48).map (fun i => add_fd (i + 3)) ++ [add_fd 51])) := by
  refine ⟨fun h => ?_, fun h => ?_, fun h => ?_⟩
  · obtain ⟨-, hadd⟩ := (MultipleIOPoll.matches_iff _ _).mp h
    obtain ⟨-, hmore⟩ := hadd _ rfl
    exact (hmore _ rfl).1 (by decide)
  · obtain ⟨-, hadd⟩ := (MultipleIOSelect.matches_iff _ _).mp h
    exact (hadd _ rfl).1.2 (by decide)
  · have hroom := (MultipleIOEpoll.matches_iff _ _).mp h
    have hadd := hroom.guard_of_exec rfl
    have hless := hadd (by decide +kernel) rfl (by decide +kernel)
    revert hless
    decide +kernel

end livox_lidar
