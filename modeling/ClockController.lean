import ClockController.Proofs.AlwaysOn
import ClockController.Proofs.AnsweredRate
import ClockController.Proofs.FaultFreedom
import ClockController.Proofs.Footprint
import ClockController.Proofs.GatingIndependence
import ClockController.Proofs.Idempotence
import ClockController.Proofs.LoopLifecycle
import ClockController.Proofs.MappedOffsets
import ClockController.Proofs.OrderIndependence
import ClockController.Proofs.PlannedRate
import ClockController.Proofs.Refusals
import ClockController.Proofs.Selection
import ClockController.Proofs.Synthesis.RoundTrip
import ClockController.Proofs.UncachedRate
import ClockController.Request
import ClockController.Proofs.Synthesis.AchievedRate
import ClockController.Proofs.Synthesis.ElectricalBands
import ClockController.Proofs.RepeatedRate
import ClockController.Proofs.ReadBackAccuracy
import ClockController.Proofs.Synthesis.SpreadDerivation
import ClockController.Proofs.SelectorFields
import ClockController.Proofs.Synthesis.ModulationWidth
import ClockController.Proofs.RunningClocks
import ClockController.Proofs.Synthesis.NearbyDividers
