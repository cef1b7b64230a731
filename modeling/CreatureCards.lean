import CreatureCards.AuthoredForm
import CreatureCards.CardSheet
import CreatureCards.CatalogValidation
import CreatureCards.DefinitionBuilder
import CreatureCards.DirectEffect
import CreatureCards.JsonText
import CreatureCards.OutcomeWalk
import CreatureCards.Proofs.Accord
import CreatureCards.Proofs.Adoption
import CreatureCards.Proofs.AlikeInvocation
import CreatureCards.Proofs.AlikeOutcome
import CreatureCards.Proofs.AlikePick
import CreatureCards.Proofs.AlikeResolution
import CreatureCards.Proofs.AlikeWalk
import CreatureCards.Proofs.ArrangedResolution
import CreatureCards.Proofs.Arrangement
import CreatureCards.Proofs.AskedInOrder
import CreatureCards.Proofs.AuthoredFields
import CreatureCards.Proofs.AuthoredOrder
import CreatureCards.Proofs.BindingFault
import CreatureCards.Proofs.BrokenAnswer
import CreatureCards.Proofs.CleanCheck
import CreatureCards.Proofs.Combining
import CreatureCards.Proofs.Conduct
import CreatureCards.Proofs.Elementary
import CreatureCards.Proofs.FairPick
import CreatureCards.Proofs.Governance
import CreatureCards.Proofs.Harmless
import CreatureCards.Proofs.HonouredReaction
import CreatureCards.Proofs.Leaves
import CreatureCards.Proofs.LureBinds
import CreatureCards.Proofs.MergeTally
import CreatureCards.Proofs.MergeVisit
import CreatureCards.Proofs.MergedResult
import CreatureCards.Proofs.OneAfterAnother
import CreatureCards.Proofs.OnlyRequests
import CreatureCards.Proofs.PickProcedure
import CreatureCards.Proofs.PlainEffects
import CreatureCards.Proofs.Play
import CreatureCards.Proofs.Procedure
import CreatureCards.Proofs.ProcedureTable
import CreatureCards.Proofs.QuestionBound
import CreatureCards.Proofs.QuestionCount
import CreatureCards.Proofs.QuestionTable
import CreatureCards.Proofs.Quiet
import CreatureCards.Proofs.RandomDraw
import CreatureCards.Proofs.RealChoices
import CreatureCards.Proofs.ResultShape
import CreatureCards.Proofs.ShapeFault
import CreatureCards.Proofs.Strictness
import CreatureCards.Proofs.Tally
import CreatureCards.Proofs.Tame
import CreatureCards.Proofs.TameProcedure
import CreatureCards.Proofs.TargetingLaw
import CreatureCards.Proofs.UnusableDefinition
import CreatureCards.Proofs.UsableDefinition
import CreatureCards.Proofs.ValidatedDefinition
import CreatureCards.Proofs.ValidatedResolution
import CreatureCards.Proofs.Visit
import CreatureCards.Proofs.WalkRun
import CreatureCards.Proofs.WalkVisit
import CreatureCards.Proofs.WalksEnd
import CreatureCards.Proofs.Within
import CreatureCards.Proofs.WithinMerge
import CreatureCards.Proofs.WithinWalk
import CreatureCards.Relocation
import CreatureCards.RuleSet
import CreatureCards.Proofs.Correspondence
import CreatureCards.Proofs.CorrespondingEffects
import CreatureCards.Proofs.CorrespondingGroups
import CreatureCards.Proofs.CorrespondingResolution
import CreatureCards.Proofs.CorrespondingWalk
import CreatureCards.Proofs.SeatSwap
import CreatureCards.Proofs.DeadEnd
import CreatureCards.Proofs.Discard
import CreatureCards.Proofs.PickedPlayer
import CreatureCards.Proofs.FoundAgain
import CreatureCards.Proofs.HiddenOrder
import CreatureCards.Proofs.PlayedSpells
import CreatureCards.Proofs.GroupComposition
import CreatureCards.Proofs.GroupShortcuts
import CreatureCards.Proofs.StuckCheck
import CreatureCards.Proofs.Completion
import CreatureCards.Proofs.ReliableOutcome
import CreatureCards.Proofs.ReliableWalk
import CreatureCards.Proofs.SupportedEffects
import CreatureCards.Proofs.SupportedPicks
import CreatureCards.Proofs.SupportedZones
import CreatureCards.Proofs.SupportedInvocation
import CreatureCards.Proofs.MissingRole
import CreatureCards.Proofs.UnseenFriendlies
import CreatureCards.Proofs.OptionShortcut
import CreatureCards.Proofs.ForcedPick
import CreatureCards.Proofs.InertNode
import CreatureCards.Proofs.NamedArguments
import CreatureCards.Proofs.RequiredArguments
import CreatureCards.Proofs.ScaledDraw
import CreatureCards.Proofs.SilentNothing
import CreatureCards.Proofs.CatalogCheck
import CreatureCards.Proofs.NothingOverwritten
