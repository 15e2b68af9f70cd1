import Fastboot.Main
import Fastboot.Proofs.Board.Images
import Fastboot.Proofs.Buffer.LastWrite
import Fastboot.Proofs.Command.Environment
import Fastboot.Proofs.Command.Lookup
import Fastboot.Proofs.Command.Retry
import Fastboot.Proofs.Command.Size
import Fastboot.Proofs.Controller.Conservation
import Fastboot.Proofs.Device.BootLock
import Fastboot.Proofs.Device.Consume
import Fastboot.Proofs.Device.Delivery
import Fastboot.Proofs.Device.Flash
import Fastboot.Proofs.Device.Flight
import Fastboot.Proofs.Device.Followed
import Fastboot.Proofs.Device.Fuse
import Fastboot.Proofs.Device.InStep
import Fastboot.Proofs.Device.Late
import Fastboot.Proofs.Device.Limit
import Fastboot.Proofs.Device.Milestone
import Fastboot.Proofs.Device.Mirror
import Fastboot.Proofs.Device.Noted
import Fastboot.Proofs.Device.Progress
import Fastboot.Proofs.Device.Refusal
import Fastboot.Proofs.Device.Replacing
import Fastboot.Proofs.Device.Residue
import Fastboot.Proofs.Device.Restart
import Fastboot.Proofs.Device.Storage
import Fastboot.Proofs.Device.Unfailing
import Fastboot.Proofs.Frame
import Fastboot.Proofs.Host.Attestation
import Fastboot.Proofs.Host.Loops
import Fastboot.Proofs.Host.Supersede
import Fastboot.Proofs.Host.Undelivered
import Fastboot.Proofs.Host.Upload
import Fastboot.Proofs.Settings.Store
import Fastboot.Proofs.Simulator.Session
