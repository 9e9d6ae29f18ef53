import Netflume.Value

/-! # Information elements

The table is data: element IDs to normalised names and value kinds.  Elements it
does not know are still decoded, under names made from their numbers. -/

namespace Netflume

/-- `IE`. -/
def ieTable : List (Nat × String × Kind) := [
  (1, "octets", .uint), (2, "packets", .uint), (3, "flows", .uint), (4, "proto", .uint),
  (5, "tos", .uint), (6, "tcp_flags", .uint), (7, "src_port", .uint), (8, "src_addr", .ipv4),
  (9, "src_mask", .uint), (10, "in_if", .uint), (11, "dst_port", .uint), (12, "dst_addr", .ipv4),
  (13, "dst_mask", .uint), (14, "out_if", .uint), (15, "next_hop", .ipv4), (16, "src_as", .uint),
  (17, "dst_as", .uint), (21, "last_switched", .uint), (22, "first_switched", .uint),
  (23, "out_octets", .uint), (24, "out_packets", .uint), (27, "src_addr", .ipv6),
  (28, "dst_addr", .ipv6), (29, "src_mask", .uint), (30, "dst_mask", .uint),
  (31, "flow_label", .uint), (32, "icmp_type_code", .uint), (34, "sampling_interval", .uint),
  (35, "sampling_algorithm", .uint), (36, "active_timeout", .uint), (37, "idle_timeout", .uint),
  (40, "exported_octets", .uint), (41, "exported_packets", .uint), (42, "exported_flows", .uint),
  (48, "sampler_id", .uint), (49, "sampler_mode", .uint), (50, "sampler_interval", .uint),
  (52, "min_ttl", .uint), (53, "max_ttl", .uint), (55, "dst_tos", .uint), (56, "src_mac", .mac),
  (57, "post_dst_mac", .mac), (58, "vlan", .uint), (59, "post_vlan", .uint),
  (60, "ip_version", .uint), (61, "direction", .uint), (62, "next_hop", .ipv6),
  (70, "mpls_label_1", .uint), (80, "dst_mac", .mac), (81, "post_src_mac", .mac),
  (82, "if_name", .string), (83, "if_desc", .string), (84, "sampler_name", .string),
  (85, "octets_total", .uint), (86, "packets_total", .uint), (89, "forwarding_status", .uint),
  (128, "bgp_next_as", .uint), (136, "flow_end_reason", .uint),
  (138, "observation_point_id", .uint), (139, "icmp_type_code_v6", .uint),
  (145, "template_id", .uint), (148, "flow_id", .uint), (149, "observation_domain_id", .uint),
  (150, "flow_start_s", .uint), (151, "flow_end_s", .uint), (152, "flow_start_ms", .uint),
  (153, "flow_end_ms", .uint), (154, "flow_start_us", .ntp), (155, "flow_end_us", .ntp),
  (156, "flow_start_ns", .ntp), (157, "flow_end_ns", .ntp), (160, "system_init_time_ms", .uint),
  (163, "observed_flows", .uint), (176, "icmp_type", .uint), (177, "icmp_code", .uint),
  (178, "icmp_type", .uint), (179, "icmp_code", .uint), (209, "tcp_options", .uint),
  (225, "post_nat_src_addr", .ipv4), (226, "post_nat_dst_addr", .ipv4),
  (227, "post_nat_src_port", .uint), (228, "post_nat_dst_port", .uint),
  (234, "ingress_vrf", .uint), (235, "egress_vrf", .uint), (243, "dot1q_vlan", .uint),
  (244, "dot1q_prio", .uint), (245, "dot1q_cust_vlan", .uint), (256, "ethertype", .uint),
  (300, "observation_domain_name", .string), (302, "selector_id", .uint),
  (304, "selector_algorithm", .uint), (305, "sampling_packet_interval", .uint),
  (306, "sampling_packet_space", .uint), (309, "sampling_size", .uint),
  (310, "sampling_population", .uint), (323, "observation_time_ms", .uint),
  (346, "enterprise_id", .uint), (351, "srh_flags", .uint)]

/-- The name and kind `read_template_fields` gives a specification: the table's,
`ie<id>` for an element it does not list, and `e<enterprise>.<id>` always for an
enterprise-specific one. -/
def fieldName (element : Nat) (enterprise : Option Nat) : String × Kind :=
  match enterprise with
  | some number => ("e" ++ Nat.repr number ++ "." ++ Nat.repr element, .auto)
  | none => (ieTable.lookup element).getD ("ie" ++ Nat.repr element, .auto)

/-- The triple made of one field specification. -/
def Field.named (element : Nat) (enterprise : Option Nat) (length : Nat) : Field :=
  ⟨(fieldName element enterprise).1, (fieldName element enterprise).2, length⟩

end Netflume
