import DeltaBridge.Main
import DeltaBridge.Proofs.Broker.Acknowledgement
import DeltaBridge.Proofs.Broker.Aftermath
import DeltaBridge.Proofs.Broker.Answer
import DeltaBridge.Proofs.Broker.Listening
import DeltaBridge.Proofs.Broker.Loops
import DeltaBridge.Proofs.Broker.Standing
import DeltaBridge.Proofs.Bridge.Pipeline
import DeltaBridge.Proofs.Bridge.Logging
import DeltaBridge.Proofs.Bridge.Announcing
import DeltaBridge.Proofs.Bridge.Containment
import DeltaBridge.Proofs.Bridge.Exit
import DeltaBridge.Proofs.Bridge.Publishing
import DeltaBridge.Proofs.Sensor.Isolation
import DeltaBridge.Proofs.Sensor.Skipping
import DeltaBridge.Proofs.Extraction
import DeltaBridge.Proofs.FirstMatch
import DeltaBridge.Proofs.Decimal.Notation
import DeltaBridge.Proofs.Decimal.Range
import DeltaBridge.Proofs.Text.Utf8
import DeltaBridge.Proofs.Sensor.Reading
import DeltaBridge.Proofs.Path.Address
import DeltaBridge.Proofs.Text.Blank
import DeltaBridge.Proofs.Addressed
import DeltaBridge.Proofs.Decimal.SignedZero
import DeltaBridge.Proofs.Sensor.Agreement
import DeltaBridge.Proofs.Sensor.Registering
import DeltaBridge.Proofs.Sensor.Finiteness
import DeltaBridge.Proofs.Readable
import DeltaBridge.Proofs.Bridge.Loading
import DeltaBridge.Proofs.Bridge.Building
import DeltaBridge.Proofs.Bridge.Threshold
import DeltaBridge.Proofs.Broker.Breakdown
import DeltaBridge.Proofs.Sensor.NormalForm
