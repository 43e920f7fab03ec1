import SmbusPostBox.Main
import SmbusPostBox.Proofs.AdapterDiagnosis
import SmbusPostBox.Proofs.AddressBytes
import SmbusPostBox.Proofs.ControllerAgreement
import SmbusPostBox.Proofs.NodeTransfers
import SmbusPostBox.Proofs.OversizeRequests
import SmbusPostBox.Proofs.PrintedArrays
import SmbusPostBox.Proofs.ReadIndependence
import SmbusPostBox.Proofs.ReadNotes
import SmbusPostBox.Proofs.SessionLife
import SmbusPostBox.Proofs.WrittenNumbers
